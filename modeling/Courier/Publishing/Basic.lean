import Courier.Amqp.Message
import Courier.Dialogue
import Courier.Error
import Courier.Metrics
import Courier.Notification.Encoding

/-!
# Queuing a notification

A notification is queued by handing its message to the publisher and waiting for what the broker
says.  Every attempt is counted, either as published or as failed.

## Main definitions

* `Publishing.Config`: where notifications go.
* `Publishing.messageOf`: the message of a notification.
* `Publishing.publish`: one attempt.
-/

namespace Courier

namespace Publishing

/-- Where notifications go. -/
structure Config where
  exchange : String
  routingKey : String
  /-- How many messages may wait for the publisher. -/
  buffer : UInt64
  deriving DecidableEq, Repr

/-- The content type of JSON. -/
def jsonContentType : String := "application/json"

/-- The message of a notification. -/
def messageOf (c : Config) (n : Notification) : Amqp.Outgoing where
  exchange := c.exchange
  routingKey := c.routingKey
  body := n.encode
  contentType := some jsonContentType
  correlationId := some n.requestId
  retryCount := none
  persistent := true

/-- What becomes of a message that was handed to the publisher. -/
inductive Receipt where
  /-- The broker took it. -/
  | confirmed
  /-- The broker did not take it. -/
  | refused (e : BrokerError)
  /-- The publisher ended without an answer. -/
  | unanswered
  deriving DecidableEq, Repr

/-- What is asked of the world. -/
inductive Action where
  /-- The publisher is to publish a message. -/
  | submit (message : Amqp.Outgoing)
  | count (event : Metrics.Event)

/-- How an action is answered. -/
abbrev Action.Answer : Action → Type
  | .submit _ => Receipt
  | .count _ => Unit

/-- A dialogue with the publisher. -/
abbrev Task := Dialogue Action Action.Answer

/-- What a receipt is counted as. -/
def Receipt.event : Receipt → Metrics.Event
  | .confirmed => .published
  | .refused _ => .publishFailure
  | .unanswered => .publishFailure

/-- What a receipt means to the one who waited for it. -/
def Receipt.result : Receipt → Except PublishError Unit
  | .confirmed => .ok ()
  | .refused e => .error (.broker e)
  | .unanswered => .error .closed

/-- Counts a receipt and ends with its result. -/
def conclude (r : Receipt) : Task (Except PublishError Unit) :=
  .ask (.count r.event) fun _ => .done r.result

/-- Queues a notification. -/
def publish (c : Config) (n : Notification) : Task (Except PublishError Unit) :=
  .ask (.submit (messageOf c n)) conclude

end Publishing

end Courier
