import Courier.Amqp.Message
import Courier.Error

/-!
# Deliveries

The broker hands out an occurrence of a message under a tag and waits for its settlement.  Only the
first settlement is sent, and none at all after the channel of the delivery has gone.

## Main definitions

* `Amqp.Settlement`: an acknowledgement or a rejection.
* `Amqp.Delivery`: an occurrence under a tag.
* `Amqp.Delivery.settle`: a call to settle it.
-/

namespace Courier

namespace Amqp

/-- A way to settle a delivery. -/
inductive Settlement where
  /-- The message is done with. -/
  | ack
  /-- The message is given up and not put back. -/
  | reject
  deriving DecidableEq, Repr

/-- The failure to settle a delivery. -/
def Settlement.failure (s : Settlement) (tag : UInt64) (reason : Reason) : BrokerError :=
  match s with
  | .ack => .acknowledge tag reason
  | .reject => .reject tag reason

/-- The reason of a settlement that was never sent. -/
def notSent : String := "channel poisoned or delivery already settled"

/-- An occurrence of a message that the broker handed out. -/
structure Delivery where
  /-- The number of the delivery on its channel. -/
  tag : UInt64
  /-- What was handed out. -/
  occurrence : Occurrence
  /-- Whether a settlement can still be sent. -/
  sendable : Bool
  deriving DecidableEq, Repr

/-- A call to settle a delivery, and the delivery after it. -/
def Delivery.settle (d : Delivery) (s : Settlement) : Except BrokerError Unit × Delivery :=
  if d.sendable then (.ok (), { d with sendable := false })
  else (.error (s.failure d.tag (some notSent)), d)

end Amqp

end Courier
