import Courier.Processing
import Courier.Publishing.Basic
import Courier.Topology

/-!
# Configuration

The service has one configuration, and each of its components a view of it.

## Main definitions

* `Config`: the configuration.
* `Config.validate`, `Config.Valid`: whether the service may run with it.
* `Config.topology`, `Config.processing`, `Config.publishing`, `Config.workers`: the views.
-/

namespace Courier

/-- How the workers run. -/
structure WorkerConfig where
  /-- The number of workers. -/
  count : UInt64
  /-- How many unsettled deliveries each of them may hold. -/
  prefetch : UInt16
  /-- How long their last deliveries may take when the service stops. -/
  grace : Duration
  deriving DecidableEq, Repr

/-- The configuration of the service. -/
structure Config where
  rabbitmqUrl : String
  mainExchange : String
  retryExchange : String
  deadLetterExchange : String
  mainQueue : String
  retryQueue : String
  deadLetterQueue : String
  mainRoutingKey : String
  retryRoutingKey : String
  deadLetterRoutingKey : String
  workerCount : UInt64
  prefetchCount : UInt16
  retryDelayMs : UInt64
  maxRetries : UInt32
  defaultPushToken : Option String
  deliveryTimeoutMs : UInt64
  fcmProjectId : String
  fcmBaseUrl : String
  serverPort : UInt16
  publishBuffer : UInt64
  shutdownGraceMs : UInt64
  deriving DecidableEq, Repr

namespace Config

/-- What keeps the service from running with a configuration. -/
inductive Problem where
  | blankUrl
  | noWorkers
  | noPrefetch
  | noRetryDelay
  | noDeliveryTimeout
  | noPublishBuffer
  | blankExchange
  | sharedExchange
  | blankQueue
  deriving DecidableEq, Repr

/-- The problem in words. -/
def Problem.message : Problem → String
  | .blankUrl => "RABBITMQ_URL must not be empty"
  | .noWorkers => "WORKER_COUNT must be at least 1"
  | .noPrefetch => "PREFETCH_COUNT must be at least 1"
  | .noRetryDelay => "RETRY_DELAY_MS must be greater than zero"
  | .noDeliveryTimeout => "DELIVERY_TIMEOUT_MS must be greater than zero"
  | .noPublishBuffer => "PUBLISH_BUFFER must be at least 1"
  | .blankExchange => "Exchange names must not be empty"
  | .sharedExchange => "Main, retry and dead-letter exchanges must be distinct"
  | .blankQueue => "Retry and dead-letter queue names must not be empty"

/-- The names of the exchanges. -/
def exchanges (c : Config) : List String := [c.mainExchange, c.retryExchange, c.deadLetterExchange]

/-- Whether the service may run with a configuration; of several problems the first counts. -/
def validate (c : Config) : Except Problem Unit :=
  if Text.isAllBlank c.rabbitmqUrl then .error .blankUrl
  else if c.workerCount = 0 then .error .noWorkers
  else if c.prefetchCount = 0 then .error .noPrefetch
  else if c.retryDelayMs = 0 then .error .noRetryDelay
  else if c.deliveryTimeoutMs = 0 then .error .noDeliveryTimeout
  else if c.publishBuffer = 0 then .error .noPublishBuffer
  else if c.exchanges.any Text.isAllBlank then .error .blankExchange
  else if ¬ c.exchanges.Nodup then .error .sharedExchange
  else if Text.isAllBlank c.retryQueue ∨ Text.isAllBlank c.deadLetterQueue then
    .error .blankQueue
  else .ok ()

/-- What makes a configuration one that the service may run with. -/
structure Valid (c : Config) : Prop where
  url : Text.isAllBlank c.rabbitmqUrl = false
  workers : c.workerCount ≠ 0
  prefetch : c.prefetchCount ≠ 0
  delay : c.retryDelayMs ≠ 0
  timeout : c.deliveryTimeoutMs ≠ 0
  buffer : c.publishBuffer ≠ 0
  named : c.exchanges.any Text.isAllBlank = false
  distinct : c.exchanges.Nodup
  retryQueue : Text.isAllBlank c.retryQueue = false
  deadLetterQueue : Text.isAllBlank c.deadLetterQueue = false

/-- Validation finds no problem exactly if there is none. -/
theorem validate_eq_ok_iff {c : Config} : c.validate = .ok () ↔ c.Valid := by
  unfold validate
  constructor
  · intro h
    repeat (split at h; · cases h)
    next url workers prefetch delay timeout buffer named distinct queues =>
      obtain ⟨retryQueue, deadLetterQueue⟩ := not_or.1 queues
      exact ⟨Bool.eq_false_iff.2 url, workers, prefetch, delay, timeout, buffer,
        Bool.eq_false_iff.2 named, Decidable.not_not.1 distinct, Bool.eq_false_iff.2 retryQueue,
        Bool.eq_false_iff.2 deadLetterQueue⟩
  · intro h
    have queues := not_or.2
      ⟨Bool.eq_false_iff.1 h.retryQueue, Bool.eq_false_iff.1 h.deadLetterQueue⟩
    rw [if_neg (Bool.eq_false_iff.1 h.url), if_neg h.workers, if_neg h.prefetch, if_neg h.delay,
      if_neg h.timeout, if_neg h.buffer, if_neg (Bool.eq_false_iff.1 h.named),
      if_neg (not_not_intro h.distinct), if_neg queues]

/-- The names of the topology. -/
def topology (c : Config) : Topology.Config where
  mainExchange := c.mainExchange
  retryExchange := c.retryExchange
  deadLetterExchange := c.deadLetterExchange
  mainQueue := c.mainQueue
  retryQueue := c.retryQueue
  deadLetterQueue := c.deadLetterQueue
  mainRoutingKey := c.mainRoutingKey
  retryRoutingKey := c.retryRoutingKey
  deadLetterRoutingKey := c.deadLetterRoutingKey
  retryDelay := .ofMillis c.retryDelayMs

/-- How often a delivery is tried again. -/
def retryPolicy (c : Config) : RetryPolicy := ⟨c.maxRetries⟩

/-- How the workers run. -/
def workers (c : Config) : WorkerConfig where
  count := c.workerCount
  prefetch := c.prefetchCount
  grace := .ofMillis c.shutdownGraceMs

/-- How occurrences are handled; a blank default token counts as none. -/
def processing (c : Config) : Processing.Config where
  policy := c.retryPolicy
  retryExchange := c.retryExchange
  retryRoutingKey := c.retryRoutingKey
  defaultToken := c.defaultPushToken.filter fun token => !Text.isAllBlank token
  deliveryTimeout := .ofMillis c.deliveryTimeoutMs

/-- Where notifications go. -/
def publishing (c : Config) : Publishing.Config where
  exchange := c.mainExchange
  routingKey := c.mainRoutingKey
  buffer := c.publishBuffer

end Config

end Courier
