import Courier.Amqp.Closure
import Courier.Amqp.Message

/-!
# Methods

A client drives a broker with methods, each of them sent on a channel.

## Main definitions

* `Amqp.Method`: the methods that a client sends.
* `Amqp.Method.name`: the name of a method, with that of its class.
* `Amqp.Method.Reply`: what the broker answers.
-/

namespace Courier

namespace Amqp

/-- How long a queue lasts and who may use it. -/
structure QueueOptions where
  durable : Bool
  exclusive : Bool
  autoDelete : Bool
  deriving DecidableEq, Repr

/-- A queue that outlives the broker. -/
def durableQueue : QueueOptions := ⟨true, false, false⟩

/-- A queue that lives as long as the connection. -/
def transientQueue : QueueOptions := ⟨false, true, true⟩

/-- What a client sends. -/
inductive Method where
  /-- The connection is to be used for a virtual host. -/
  | connectionOpen (host : String)
  /-- The connection is to end. -/
  | connectionClose (closure : Closure)
  /-- A channel is to begin. -/
  | channelOpen
  /-- A channel is to end. -/
  | channelClose (closure : Closure)
  /-- A durable exchange that routes by equality of keys is to exist. -/
  | exchangeDeclare (name : String)
  /-- A queue is to exist. -/
  | queueDeclare (name : String) (options : QueueOptions) (arguments : Table)
  /-- A queue is to get the messages of an exchange that have a key. -/
  | queueBind (queue exchange routingKey : String)
  /-- Messages published on the channel are to be confirmed. -/
  | confirmSelect
  /-- The number of unsettled deliveries of the channel is to be limited. -/
  | basicQos (prefetch : UInt16)
  /-- The messages of a queue are to be delivered under the tag of a consumer. -/
  | basicConsume (queue tag : String)
  /-- A consumer is to get no more messages. -/
  | basicCancel (tag : String)
  /-- A delivery is acknowledged. -/
  | basicAck (tag : UInt64)
  /-- A delivery is rejected and not to be put back. -/
  | basicNack (tag : UInt64)
  | basicPublish (message : Outgoing)

/-- The name of a method. -/
def Method.name : Method → String
  | .connectionOpen _ => "connection.open"
  | .connectionClose _ => "connection.close"
  | .channelOpen => "channel.open"
  | .channelClose _ => "channel.close"
  | .exchangeDeclare _ => "exchange.declare"
  | .queueDeclare .. => "queue.declare"
  | .queueBind .. => "queue.bind"
  | .confirmSelect => "confirm.select"
  | .basicQos _ => "basic.qos"
  | .basicConsume .. => "basic.consume"
  | .basicCancel _ => "basic.cancel"
  | .basicAck _ => "basic.ack"
  | .basicNack _ => "basic.nack"
  | .basicPublish _ => "basic.publish"

/-- What the broker says about a published message. -/
inductive Confirmation where
  /-- It has the message. -/
  | ack
  /-- It does not. -/
  | nack
  deriving DecidableEq, Repr

/-- What the broker answers: the name of a declared queue, the confirmation of a message, and
nothing of interest otherwise. -/
def Method.Reply : Method → Type
  | .queueDeclare .. => String
  | .basicPublish _ => Confirmation
  | _ => Unit

end Amqp

end Courier
