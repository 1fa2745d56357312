import Courier.Duration
import Courier.Number.Decimal

/-!
# Failures of the pipeline

Each kind of failure names its cause; the words for it are in one function per kind.  Where the
cause lies outside the pipeline, its own words are carried along as a `Reason`, which is absent if
they are not known.

## Main definitions

* `BrokerError`, `TopologyError`, `PublishError`, `DeliveryError`.
-/

namespace Courier

/-- The words of the party that caused a failure, if they are known. -/
abbrev Reason := Option String

/-- A failure to talk to the broker. -/
inductive BrokerError where
  | connection (reason : Reason)
  /-- Opening a channel or setting it up. -/
  | channel (reason : Reason)
  | publish (exchange : String) (reason : Reason)
  /-- The broker did not take a published message. -/
  | publishNacked (exchange : String)
  /-- Acknowledging a delivery. -/
  | acknowledge (tag : UInt64) (reason : Reason)
  /-- Rejecting a delivery. -/
  | reject (tag : UInt64) (reason : Reason)
  /-- Starting a consumer. -/
  | consume (queue : String) (reason : Reason)
  deriving DecidableEq, Repr

/-- The failure in words, if those of its cause are known. -/
def BrokerError.message? : BrokerError → Option String
  | .connection reason => reason.map ("failed to connect to broker: " ++ ·)
  | .channel reason => reason.map ("failed to open channel: " ++ ·)
  | .publish exchange reason =>
    reason.map ("failed to publish to exchange '" ++ exchange ++ "': " ++ ·)
  | .publishNacked exchange =>
    some ("broker refused message published to exchange '" ++ exchange ++ "'")
  | .acknowledge tag reason =>
    reason.map ("failed to acknowledge delivery " ++ Decimal.text tag.toNat ++ ": " ++ ·)
  | .reject tag reason =>
    reason.map ("failed to reject delivery " ++ Decimal.text tag.toNat ++ ": " ++ ·)
  | .consume queue reason =>
    reason.map ("failed to start consumer on queue '" ++ queue ++ "': " ++ ·)

/-- A declaration that could not be made. -/
inductive TopologyError where
  | exchange (name : String) (reason : Reason)
  | queue (name : String) (reason : Reason)
  | binding (queue exchange routingKey : String) (reason : Reason)
  /-- The configuration itself cannot be declared. -/
  | invalid (problem : String)
  deriving DecidableEq, Repr

/-- The failure in words, if those of its cause are known. -/
def TopologyError.message? : TopologyError → Option String
  | .exchange name reason => reason.map ("failed to declare exchange '" ++ name ++ "': " ++ ·)
  | .queue name reason => reason.map ("failed to declare queue '" ++ name ++ "': " ++ ·)
  | .binding q e key reason =>
    reason.map ("failed to bind queue '" ++ q ++ "' to exchange '" ++ e ++ "' with key '" ++ key ++
      "': " ++ ·)
  | .invalid problem => some ("invalid topology configuration: " ++ problem)

/-- Why a notification could not be queued. -/
inductive PublishError where
  /-- It could not be written down. -/
  | serialization (problem : String)
  /-- The broker did not take it. -/
  | broker (e : BrokerError)
  /-- Nobody publishes any more. -/
  | closed
  deriving DecidableEq, Repr

/-- The failure in words, if those of its cause are known. -/
def PublishError.message? : PublishError → Option String
  | .serialization problem => some ("failed to serialize notification request: " ++ problem)
  | .broker e => e.message?
  | .closed => some "publisher task is no longer running"

/-- A failed call of the push provider. -/
inductive DeliveryError where
  /-- The provider answered with another status than success. -/
  | rejected (status : UInt16) (body : String)
  /-- No usable answer came. -/
  | transport (reason : Reason)
  /-- There was no access token. -/
  | authentication (reason : Reason)
  /-- The answer took too long. -/
  | timeout (limit : Duration)
  deriving DecidableEq, Repr

/-- The failure in words, if those of its cause are known. -/
def DeliveryError.message? : DeliveryError → Option String
  | .rejected status body =>
    some ("provider rejected notification: HTTP " ++ Decimal.text status.toNat ++ ": " ++ body)
  | .transport reason => reason.map ("provider request failed: " ++ ·)
  | .authentication reason => reason.map ("failed to obtain provider access token: " ++ ·)
  | .timeout limit => some ("delivery timed out after " ++ Decimal.text limit.millis ++ "ms")

end Courier
