import Courier.Json.Quoted
import Courier.Metrics

/-!
# Health

The service is unhealthy without its broker, degraded once a message was lost between its
acknowledgement and its retry, and healthy otherwise.

## Main definitions

* `Health.check`: the report.
* `Health.Report.toJson`: the report as an object.
-/

namespace Courier

namespace Health

/-- The state of the service. -/
inductive Status where
  | healthy
  | degraded
  | unhealthy
  deriving DecidableEq, Repr

/-- The name of a state. -/
def Status.name : Status → String
  | .healthy => "healthy"
  | .degraded => "degraded"
  | .unhealthy => "unhealthy"

/-- What is known of the service. -/
structure Report where
  /-- The state. -/
  status : Status
  /-- Whether there is a connection to the broker. -/
  connected : Bool
  /-- The counters. -/
  pipeline : Metrics
  deriving DecidableEq, Repr

/-- The report for a connection and the counters. -/
def check (connected : Bool) (m : Metrics) : Report where
  status :=
    if !connected then .unhealthy
    else if 0 < m.retryPublishFailures then .degraded
    else .healthy
  connected := connected
  pipeline := m

/-- What is said of a missing connection. -/
def connectionProblem : String := "Connection is not open"

open Json

/-- A counter as a JSON value. -/
def counter (n : UInt64) : Value := .nat n.toNat

/-- The counters as an object. -/
def metricsToJson (m : Metrics) : Value :=
  .record [("published", counter m.published), ("publish_failures", counter m.publishFailures),
    ("received", counter m.received), ("succeeded", counter m.succeeded),
    ("delivery_failures", counter m.deliveryFailures), ("retried", counter m.retried),
    ("retry_publish_failures", counter m.retryPublishFailures),
    ("ack_failures", counter m.ackFailures),
    ("dead_lettered",
      .record [("malformed_payload", counter m.deadLettered.malformedPayload),
        ("unsupported_type", counter m.deadLettered.unsupportedType),
        ("missing_recipient", counter m.deadLettered.missingRecipient),
        ("retries_exhausted", counter m.deadLettered.retriesExhausted)])]

/-- The report as an object, with the time at which it is given.  A rehearsal has no clock. -/
def Report.toJson (r : Report) (time : Option String := none) : Value :=
  .record ([("status", .text r.status.name)] ++
    (time.map fun time => ("timestamp", .text time)).toList ++
    [("message_broker", .record ([("connected", .bool r.connected)] ++
      if r.connected then [] else [("error", .text connectionProblem)])),
    ("pipeline", metricsToJson r.pipeline)])

end Health

end Courier
