import Courier.Amqp.Delivery
import Courier.Dialogue
import Courier.Metrics
import Courier.Notification.Decoding

/-!
# Handling one occurrence of a message

An occurrence is decoded, delivered to the push provider and settled exactly once.  A failed
delivery is acknowledged before the retry is published, so that never more than one copy of a
message is alive; if publishing it fails after that, the message is lost, and this is an outcome of
its own.

## Main definitions

* `Processing.Config`: how occurrences are handled.
* `Processing.Action`: what is asked of the world.
* `Processing.handle`: an occurrence up to its outcome.
* `Processing.process`: the same with everything counted.
-/

namespace Courier

namespace Processing

/-- How occurrences are handled. -/
structure Config where
  /-- How often a delivery is tried again. -/
  policy : RetryPolicy
  /-- The exchange of retries. -/
  retryExchange : String
  /-- The key of retries. -/
  retryRoutingKey : String
  /-- The recipient of notifications that name none. -/
  defaultToken : Option String
  /-- How long the provider may take. -/
  deliveryTimeout : Duration
  deriving DecidableEq, Repr

/-- An answer of the provider, on its way for some milliseconds. -/
structure Reply where
  /-- How long the answer takes. -/
  delay : Nat
  /-- The identity that the provider gave to the message, or its failure. -/
  result : Except DeliveryError String

/-- What is asked of the world. -/
inductive Action where
  | count (event : Metrics.Event)
  /-- The provider is to send a notification to a device. -/
  | send (token : String) (notification : Notification)
  /-- The delivery is to be settled. -/
  | settle (settlement : Amqp.Settlement)
  /-- A retry is to be published. -/
  | publish (message : Amqp.Outgoing)

/-- How an action is answered. -/
abbrev Action.Answer : Action → Type
  | .count _ => Unit
  | .send .. => Reply
  | .settle _ => Except BrokerError Unit
  | .publish _ => Except BrokerError Unit

/-- The rest of the handling of an occurrence. -/
abbrev Task := Dialogue Action Action.Answer Outcome

/-- What a reply is worth when it comes within the limit, and after it. -/
def Reply.within (r : Reply) (limit : Duration) : Except DeliveryError String :=
  if r.delay ≤ limit.millis then r.result else .error (.timeout limit)

/-- Settles the delivery and ends with `outcome` if that reached the broker. -/
def settleWith (s : Amqp.Settlement) (outcome : Outcome) : Task :=
  .ask (.settle s) fun
    | .ok () => .done outcome
    | .error _ => .done .settlementFailed

/-- Gives the message up. -/
def deadLetter (reason : DeadLetterReason) : Task := settleWith .reject (.deadLettered reason)

/-- The retry of an occurrence: its body, type and identity with a new counter. -/
def retryOf (c : Config) (o : Amqp.Occurrence) (next : UInt32) : Amqp.Outgoing where
  exchange := c.retryExchange
  routingKey := c.retryRoutingKey
  body := o.body
  contentType := o.contentType
  correlationId := o.correlationId
  retryCount := some next
  persistent := true

/-- Publishes the retry of an occurrence. -/
def republish (c : Config) (o : Amqp.Occurrence) (next : UInt32) : Task :=
  .ask (.publish (retryOf c o next)) fun
    | .ok () => .done (.retrying next)
    | .error _ => .done (.retryLost next)

/-- Acknowledges an occurrence and publishes its retry once that reached the broker. -/
def retry (c : Config) (o : Amqp.Occurrence) (next : UInt32) : Task :=
  .ask (.settle .ack) fun
    | .ok () => republish c o next
    | .error _ => .done .settlementFailed

/-- What follows a failed delivery. -/
def afterFailure (c : Config) (o : Amqp.Occurrence) : Task :=
  match c.policy.afterFailure o.retryCount with
  | .deadLetter => deadLetter .retriesExhausted
  | .retry next => retry c o next

/-- One attempt to deliver a notification, and what follows. -/
def attempt (c : Config) (o : Amqp.Occurrence) (token : String) (n : Notification) : Task :=
  .ask (.send token n) fun (reply : Reply) =>
    match reply.within c.deliveryTimeout with
    | .ok id => settleWith .ack (.succeeded id)
    | .error _ => .ask (.count .deliveryFailure) fun _ => afterFailure c o

/-- Handles an occurrence. -/
def handle (c : Config) (o : Amqp.Occurrence) : Task :=
  match Notification.decode? o.body with
  | none => deadLetter .malformedPayload
  | some n =>
    match n.medium with
    | .email => deadLetter .unsupportedType
    | .push =>
      match n.recipient? c.defaultToken with
      | none => deadLetter .missingRecipient
      | some token => attempt c o token n

/-- Handles an occurrence and counts its arrival and its outcome. -/
def process (c : Config) (o : Amqp.Occurrence) : Task :=
  .ask (.count .received) fun _ =>
    (handle c o).bind fun outcome => .ask (.count (.outcome outcome)) fun _ => .done outcome

end Processing

end Courier
