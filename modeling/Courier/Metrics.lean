import Courier.Retry

/-!
# Counters

Twelve counters follow the messages through the pipeline.  Each event raises exactly one of them by
one, modulo `2 ^ 64`.

## Main definitions

* `Metrics`: the counters.
* `Metrics.Event`: what is counted.
* `Metrics.record`: the counters after an event.
-/

namespace Courier

/-- How many messages were given up, by reason. -/
structure DeadLetterCounts where
  malformedPayload : UInt64
  unsupportedType : UInt64
  missingRecipient : UInt64
  retriesExhausted : UInt64
  deriving DecidableEq, Repr

/-- The counters of the pipeline. -/
structure Metrics where
  /-- Notifications that the broker took. -/
  published : UInt64
  /-- Notifications that it did not take. -/
  publishFailures : UInt64
  /-- Occurrences of messages that a worker began to handle. -/
  received : UInt64
  succeeded : UInt64
  /-- Failed calls of the provider. -/
  deliveryFailures : UInt64
  retried : UInt64
  /-- Messages that were lost on the way to a retry. -/
  retryPublishFailures : UInt64
  /-- Settlements that did not reach the broker. -/
  ackFailures : UInt64
  deadLettered : DeadLetterCounts
  deriving DecidableEq, Repr

namespace Metrics

/-- All counters at zero. -/
def zero : Metrics := ⟨0, 0, 0, 0, 0, 0, 0, 0, ⟨0, 0, 0, 0⟩⟩

/-- What is counted. -/
inductive Event where
  | published
  | publishFailure
  | received
  | deliveryFailure
  | outcome (o : Outcome)
  deriving DecidableEq, Repr

/-- The counters after one more message was given up. -/
def recordDeadLetter (counts : DeadLetterCounts) : DeadLetterReason → DeadLetterCounts
  | .malformedPayload => { counts with malformedPayload := counts.malformedPayload + 1 }
  | .unsupportedType => { counts with unsupportedType := counts.unsupportedType + 1 }
  | .missingRecipient => { counts with missingRecipient := counts.missingRecipient + 1 }
  | .retriesExhausted => { counts with retriesExhausted := counts.retriesExhausted + 1 }

/-- The counters after an occurrence was handled. -/
def recordOutcome (m : Metrics) : Outcome → Metrics
  | .succeeded _ => { m with succeeded := m.succeeded + 1 }
  | .retrying _ => { m with retried := m.retried + 1 }
  | .retryLost _ => { m with retryPublishFailures := m.retryPublishFailures + 1 }
  | .settlementFailed => { m with ackFailures := m.ackFailures + 1 }
  | .deadLettered reason => { m with deadLettered := recordDeadLetter m.deadLettered reason }

/-- The counters after an event. -/
def record (m : Metrics) : Event → Metrics
  | .published => { m with published := m.published + 1 }
  | .publishFailure => { m with publishFailures := m.publishFailures + 1 }
  | .received => { m with received := m.received + 1 }
  | .deliveryFailure => { m with deliveryFailures := m.deliveryFailures + 1 }
  | .outcome o => m.recordOutcome o

end Metrics

end Courier
