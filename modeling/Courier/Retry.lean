/-!
# Retry or dead letter

A message that could not be delivered is tried again as long as its counter is below the greatest
number of retries, and given up otherwise.

## Main definitions

* `RetryPolicy.afterFailure`: what happens after a failed delivery.
* `DeadLetterReason`: why a message is given up.
* `Outcome`: how the handling of one occurrence of a message ends.
-/

namespace Courier

/-- How often a delivery is tried again. -/
structure RetryPolicy where
  /-- The greatest number of retries. -/
  maxRetries : UInt32
  deriving DecidableEq, Repr

/-- The policy where nothing else is configured. -/
def RetryPolicy.default : RetryPolicy := ⟨5⟩

/-- What happens after a failed delivery. -/
inductive FailureAction where
  /-- The message is published again with this counter. -/
  | retry (next : UInt32)
  /-- The message is given up. -/
  | deadLetter
  deriving DecidableEq, Repr

/-- What happens after a failed delivery of a message with a counter. -/
def RetryPolicy.afterFailure (policy : RetryPolicy) (count : UInt32) : FailureAction :=
  if count < policy.maxRetries then .retry (count + 1) else .deadLetter

/-- Why a message is given up. -/
inductive DeadLetterReason where
  /-- The body is no notification. -/
  | malformedPayload
  /-- The notification is not meant for the push provider. -/
  | unsupportedType
  /-- There is neither a device token nor a default one. -/
  | missingRecipient
  /-- Every retry has been used. -/
  | retriesExhausted
  deriving DecidableEq, Repr

/-- The name of a reason. -/
def DeadLetterReason.name : DeadLetterReason → String
  | .malformedPayload => "malformed_payload"
  | .unsupportedType => "unsupported_type"
  | .missingRecipient => "missing_recipient"
  | .retriesExhausted => "retries_exhausted"

/-- How the handling of one occurrence of a message ends. -/
inductive Outcome where
  /-- Delivered and acknowledged. -/
  | succeeded (providerMessageId : String)
  /-- Acknowledged and published again with this counter. -/
  | retrying (next : UInt32)
  /-- Acknowledged, but publishing it again failed: the message is gone. -/
  | retryLost (next : UInt32)
  /-- Given up. -/
  | deadLettered (reason : DeadLetterReason)
  /-- The broker did not get the settlement and still has the message. -/
  | settlementFailed
  deriving DecidableEq, Repr

end Courier
