import Courier.Amqp.Connection
import Courier.Channel
import Courier.Config.Basic

/-!
# Consumers

A worker consumes the main queue on a channel of its own.  Before any of them starts, all of them
are prepared, one after the other, and the first failure ends the preparation; a worker that is
done gives up its consumer and its channel.

## Main definitions

* `Worker.prepare`, `Worker.prepareAll`: the preparation of one worker and of all.
* `Worker.retire`: the end of a worker.
-/

namespace Courier

namespace Worker

/-- A dialogue of workers with the connection. -/
abbrev Talk := Amqp.Connection Channel

/-- The tag of the consumer of a worker. -/
def tag (id : Nat) : String := "push_worker_" ++ Decimal.text id

/-- Limits the deliveries on the channel of a worker and starts its consumer. -/
def consume (id : Nat) (queue : String) (prefetch : UInt16) : Talk (Except BrokerError Unit) :=
  .ask (.call (.worker id) (.basicQos prefetch)) fun
    | .error reason => .done (.error (.channel (reason.map ("failed to set QoS: " ++ ·))))
    | .ok _ =>
      .ask (.call (.worker id) (.basicConsume queue (tag id))) fun
        | .error reason => .done (.error (.consume queue reason))
        | .ok _ => .done (.ok ())

/-- Prepares a worker. -/
def prepare (id : Nat) (queue : String) (prefetch : UInt16) : Talk (Except BrokerError Unit) :=
  (Amqp.openConfirmChannel (.worker id)).bind fun
    | .error e => .done (.error e)
    | .ok () => consume id queue prefetch

/-- Prepares some workers, the first of which has the number `id`. -/
def prepareFrom (id : Nat) (queue : String) (prefetch : UInt16) :
    Nat → Talk (Except BrokerError Unit)
  | 0 => .done (.ok ())
  | n + 1 =>
    (prepare id queue prefetch).bind fun
      | .error e => .done (.error e)
      | .ok () => prepareFrom (id + 1) queue prefetch n

/-- Prepares all workers for a queue. -/
def prepareAll (c : WorkerConfig) (queue : String) : Talk (Except BrokerError Unit) :=
  prepareFrom 0 queue c.prefetch c.count.toNat

/-- How a worker ends its channel. -/
def stopped : Amqp.Closure := ⟨200, "worker stopped"⟩

/-- The end of a worker: unless its channel has gone, it gives up its consumer and its channel,
whatever comes of that. -/
def retire (id : Nat) : Talk Unit :=
  .ask (.isOpen (.worker id)) fun
    | false => .done ()
    | true =>
      .ask (.call (.worker id) (.basicCancel (tag id))) fun _ =>
      .ask (.call (.worker id) (.channelClose stopped)) fun _ => .done ()

end Worker

end Courier
