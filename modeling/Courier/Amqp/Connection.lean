import Courier.Amqp.Delivery
import Courier.Amqp.Method
import Courier.Dialogue

/-!
# Connections

Whoever talks to the broker does so over a connection with several channels.  A channel is known by
a name of the client's choice, and a method goes to a channel by its name.

## Main definitions

* `Amqp.Ask`, `Amqp.Connection`: what is asked of a connection, and dialogues with one.
* `Amqp.openChannel`, `Amqp.openConfirmChannel`: new channels.
* `Amqp.publish`, `Amqp.settle`: messages out, and deliveries settled.
-/

namespace Courier

namespace Amqp

variable {χ : Type}

/-- What is asked of a connection whose channels have names in `χ`. -/
inductive Ask (χ : Type) where
  /-- The connection is to be made. -/
  | connect (url : String)
  /-- Whether it is still there. -/
  | isConnected
  /-- It is to be ended. -/
  | disconnect (closure : Closure)
  /-- A new channel is to be opened. -/
  | openChannel (channel : χ)
  /-- Whether a channel is still there. -/
  | isOpen (channel : χ)
  /-- A method is to be sent, and its answer awaited. -/
  | call (channel : χ) (method : Method)

/-- How a question is answered. -/
def Ask.Answer : Ask χ → Type
  | .connect _ => Except Reason Unit
  | .isConnected => Bool
  | .disconnect _ => Except Reason Unit
  | .openChannel _ => Except Reason Unit
  | .isOpen _ => Bool
  | .call _ m => Except Reason m.Reply

/-- A dialogue with a connection. -/
abbrev Connection (χ : Type) := Dialogue (Ask χ) Ask.Answer

/-- Makes the connection. -/
def connect (url : String) : Connection χ (Except BrokerError Unit) :=
  .ask (.connect url) fun
    | .ok () => .done (.ok ())
    | .error reason => .done (.error (.connection reason))

/-- Opens a channel. -/
def openChannel (channel : χ) : Connection χ (Except BrokerError Unit) :=
  .ask (.openChannel channel) fun
    | .ok () => .done (.ok ())
    | .error reason => .done (.error (.channel reason))

/-- Opens a channel on which messages are confirmed. -/
def openConfirmChannel (channel : χ) : Connection χ (Except BrokerError Unit) :=
  (openChannel channel).bind fun
    | .error e => .done (.error e)
    | .ok () =>
      .ask (.call channel .confirmSelect) fun
        | .ok _ => .done (.ok ())
        | .error reason =>
          .done (.error (.channel (reason.map ("confirm mode refused: " ++ ·))))

/-- How the service ends its connection. -/
def shuttingDown : Closure := ⟨200, "shutting down"⟩

/-- Ends the connection if it is still there. -/
def disconnect : Connection χ (Except BrokerError Unit) :=
  .ask .isConnected fun
    | false => .done (.ok ())
    | true =>
      .ask (.disconnect shuttingDown) fun
        | .ok () => .done (.ok ())
        | .error reason => .done (.error (.connection (reason.map ("close failed: " ++ ·))))

/-- Publishes a message and waits for its confirmation. -/
def publish (channel : χ) (m : Outgoing) : Connection χ (Except BrokerError Unit) :=
  .ask (.call channel (.basicPublish m)) fun
    | .ok .ack => .done (.ok ())
    | .ok .nack => .done (.error (.publishNacked m.exchange))
    | .error reason => .done (.error (.publish m.exchange reason))

/-- The method that settles a delivery. -/
def Settlement.method : Settlement → UInt64 → Method
  | .ack, tag => .basicAck tag
  | .reject, tag => .basicNack tag

/-- Settles a delivery of a channel. -/
def settle (channel : χ) (tag : UInt64) (s : Settlement) :
    Connection χ (Except BrokerError Unit) :=
  .ask (.call channel (s.method tag)) fun
    | .ok _ => .done (.ok ())
    | .error reason => .done (.error (s.failure tag reason))

end Amqp

end Courier
