import Courier.Amqp.Connection

/-!
# The topology of exchanges and queues

Three durable exchanges lead to three queues.  A message rejected from the main queue goes through
the dead-letter exchange to the dead-letter queue.  A retry waits in the retry queue, whose
messages expire onto the main exchange, so that the time to live is the delay of the retry.

Nine declarations make the topology, one after the other; the first one that is refused ends the
attempt and gives it its name.  The binding of the main queue follows the name that the broker
reports for it, since an empty name asks for one of the choice of the broker.

## Main definitions

* `Topology.Config`: the names, the keys and the delay.
* `Topology.mainQueueArguments`, `Topology.retryQueueArguments`.
* `Topology.Declaration`: what is asked of the broker.
* `Topology.declare`: the declarations in order.
* `Topology.declareOn`: the same on a channel of a connection.
-/

namespace Courier

/-- What a declared topology is known by. -/
structure Topology where
  /-- The name that the broker reports for the main queue. -/
  mainQueue : String
  retryDelay : Duration
  deriving DecidableEq, Repr

namespace Topology

/-- The names of a topology. -/
structure Config where
  mainExchange : String
  retryExchange : String
  deadLetterExchange : String
  /-- The main queue; an empty name leaves the choice to the broker. -/
  mainQueue : String
  retryQueue : String
  deadLetterQueue : String
  mainRoutingKey : String
  retryRoutingKey : String
  deadLetterRoutingKey : String
  /-- How long a retry waits. -/
  retryDelay : Duration
  deriving DecidableEq, Repr

/-- The argument with the exchange of messages that leave a queue unconsumed. -/
def deadLetterExchangeArgument : String := "x-dead-letter-exchange"

/-- The argument with the key of messages that leave a queue unconsumed. -/
def deadLetterRoutingKeyArgument : String := "x-dead-letter-routing-key"

/-- The argument with the time to live of messages in a queue. -/
def messageTtlArgument : String := "x-message-ttl"

/-- The arguments of a queue whose unconsumed messages go to an exchange with a key. -/
def deadLetterArguments (exchange routingKey : String) : Amqp.Table :=
  (Keyed.empty.insert deadLetterExchangeArgument (.string exchange)).insert
    deadLetterRoutingKeyArgument (.string routingKey)

/-- The arguments of the main queue. -/
def mainQueueArguments (c : Config) : Amqp.Table :=
  deadLetterArguments c.deadLetterExchange c.deadLetterRoutingKey

/-- The time to live that makes a delay: its whole milliseconds, which have to be positive and fit
a signed integer of 64 bits. -/
def timeToLive (delay : Duration) : Except TopologyError Int64 :=
  if 9223372036854775808 ≤ delay.millis then .error (.invalid "retry delay does not fit in i64 ms")
  else if delay.millis = 0 then .error (.invalid "retry delay must be at least 1ms")
  else .ok (Int64.ofNat delay.millis)

/-- The arguments of the retry queue. -/
def retryQueueArguments (c : Config) : Except TopologyError Amqp.Table :=
  (timeToLive c.retryDelay).map fun ttl =>
    (deadLetterArguments c.mainExchange c.mainRoutingKey).insert messageTtlArgument (.int64 ttl)

/-- The options of the main queue: one that the broker names is transient. -/
def mainQueueOptions (c : Config) : Amqp.QueueOptions :=
  if c.mainQueue.isEmpty then Amqp.transientQueue else Amqp.durableQueue

/-- What is asked of the broker. -/
inductive Declaration where
  /-- A durable exchange that routes by equality of keys. -/
  | exchange (name : String)
  | queue (name : String) (options : Amqp.QueueOptions) (arguments : Amqp.Table)
  | binding (queue exchange routingKey : String)

/-- The failure of a declaration that the broker refused. -/
def Declaration.refused : Declaration → Reason → TopologyError
  | .exchange name, reason => .exchange name reason
  | .queue name .., reason => .queue name reason
  | .binding q e key, reason => .binding q e key reason

/-- An answer of the broker: its words if it refuses, and otherwise the name of the queue, which
counts only after the declaration of one. -/
abbrev Answer : Declaration → Type := fun _ => Except Reason String

/-- A dialogue of declarations. -/
abbrev Declaring := Dialogue Declaration Answer

/-- Makes a declaration and goes on with the reported name, unless it is refused. -/
def declaring {α : Type} (d : Declaration) (next : String → Declaring (Except TopologyError α)) :
    Declaring (Except TopologyError α) :=
  .ask d fun
    | .ok name => next name
    | .error reason => .done (.error (d.refused reason))

/-- Declares everything.  A delay that cannot be one is noticed before anything is asked. -/
def declare (c : Config) : Declaring (Except TopologyError Topology) :=
  match retryQueueArguments c with
  | .error e => .done (.error e)
  | .ok retryArguments =>
    declaring (.exchange c.mainExchange) fun _ =>
    declaring (.exchange c.deadLetterExchange) fun _ =>
    declaring (.exchange c.retryExchange) fun _ =>
    declaring (.queue c.mainQueue (mainQueueOptions c) (mainQueueArguments c)) fun mainQueue =>
    declaring (.binding mainQueue c.mainExchange c.mainRoutingKey) fun _ =>
    declaring (.queue c.deadLetterQueue Amqp.durableQueue .empty) fun _ =>
    declaring (.binding c.deadLetterQueue c.deadLetterExchange c.deadLetterRoutingKey) fun _ =>
    declaring (.queue c.retryQueue Amqp.durableQueue retryArguments) fun _ =>
    declaring (.binding c.retryQueue c.retryExchange c.retryRoutingKey) fun _ =>
    .done (.ok ⟨mainQueue, c.retryDelay⟩)

/-- Makes a declaration on a channel. -/
def Declaration.on {χ : Type} (channel : χ) :
    (d : Declaration) → Amqp.Connection χ (Except Reason String)
  | .exchange name => .ask (.call channel (.exchangeDeclare name)) fun
    | .ok _ => .done (.ok name)
    | .error reason => .done (.error reason)
  | .queue name options arguments =>
    .ask (.call channel (.queueDeclare name options arguments)) .done
  | .binding q e key =>
    .ask (.call channel (.queueBind q e key)) fun
    | .ok _ => .done (.ok q)
    | .error reason => .done (.error reason)

/-- Declares everything on a channel. -/
def declareOn {χ : Type} (channel : χ) (c : Config) :
    Amqp.Connection χ (Except TopologyError Topology) :=
  (declare c).expand (Declaration.on channel)

end Topology

end Courier
