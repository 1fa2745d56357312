import Courier.Config.Basic
import Courier.Proofs.Transcript
import Courier.Topology

/-!
# Where messages go

The declarations of a topology say where the broker takes a message: the bindings, where one that is
published goes, and the arguments of a queue, where one that leaves it unconsumed goes.  With the
three exchanges of a valid configuration, every route of the pipeline ends in one queue.

* `Topology.queuesOf` : the queues of an exchange and a key, by the bindings.
* `Topology.bindings_declared`, `Topology.arguments_declared` : these are the declared ones.
* `Topology.deadLetterRoute?` : the exchange and the key that the arguments of a queue name.
* `Topology.arguments_nodup` : no two queues are declared with the same arguments.
* `Config.queuesOf_main`, `Config.queuesOf_retry`, `Config.queuesOf_deadLetter` : **every route of a
  valid configuration ends in one queue.**
-/

namespace Courier

namespace Topology

/-- The queues of a topology. -/
inductive Queue where
  | main
  | retry
  | deadLetter
  deriving DecidableEq, Repr

/-- The name of a queue, if the broker reports a name for the main queue. -/
def Queue.name (c : Config) (reported : String) : Queue → String
  | .main => reported
  | .retry => c.retryQueue
  | .deadLetter => c.deadLetterQueue

/-- A queue, an exchange, and the key by which the exchange leads to the queue. -/
structure Binding where
  queue : Queue
  exchange : String
  routingKey : String

/-- The bindings of a topology. -/
def bindings (c : Config) : List Binding :=
  [⟨.main, c.mainExchange, c.mainRoutingKey⟩,
    ⟨.deadLetter, c.deadLetterExchange, c.deadLetterRoutingKey⟩,
    ⟨.retry, c.retryExchange, c.retryRoutingKey⟩]

/-- The queues that a message for an exchange with a key goes to. -/
def queuesOf (c : Config) (exchange routingKey : String) : List Queue :=
  ((bindings c).filter fun b => b.exchange == exchange && b.routingKey == routingKey).map
    Binding.queue

/-- The exchange and the key that messages which leave a queue unconsumed go to, if the arguments of
the queue name them. -/
def deadLetterRoute? (arguments : Amqp.Table) : Option (String × String) :=
  match arguments.get? deadLetterExchangeArgument, arguments.get? deadLetterRoutingKeyArgument with
  | some (.string exchange), some (.string routingKey) => some (exchange, routingKey)
  | _, _ => none

/-! ### These are the declared routes -/

/-- A broker that accepts every declaration and reports a name for the main queue. -/
def accepting (reported : String) (d : Declaration) (_ : Unit) : Answer d × Unit :=
  match d with
  | .exchange name => (.ok name, ())
  | .queue .. => (.ok reported, ())
  | .binding queue .. => (.ok queue, ())

/-- What is declared when the broker accepts everything. -/
def declared (c : Config) (reported : String) : List Declaration :=
  ((declare c).transcript (accepting reported) ()).map Sigma.fst

variable {c : Config} {arguments : Amqp.Table}

theorem declared_eq (h : retryQueueArguments c = .ok arguments) (reported : String) :
    declared c reported =
      [.exchange c.mainExchange, .exchange c.deadLetterExchange, .exchange c.retryExchange,
        .queue c.mainQueue (mainQueueOptions c) (mainQueueArguments c),
        .binding reported c.mainExchange c.mainRoutingKey,
        .queue c.deadLetterQueue Amqp.durableQueue .empty,
        .binding c.deadLetterQueue c.deadLetterExchange c.deadLetterRoutingKey,
        .queue c.retryQueue Amqp.durableQueue arguments,
        .binding c.retryQueue c.retryExchange c.retryRoutingKey] := by
  simp only [declared, declare, h, declaring]
  rfl

/-- The bindings of a topology are those that are declared. -/
theorem bindings_declared (h : retryQueueArguments c = .ok arguments) (reported : String) :
    ((declared c reported).filterMap fun
      | .binding queue exchange routingKey => some (queue, exchange, routingKey)
      | _ => none) =
      (bindings c).map fun b => (b.queue.name c reported, b.exchange, b.routingKey) := by
  rw [declared_eq h]
  rfl

/-- The retry queue is declared with its arguments, as the main queue is. -/
theorem arguments_declared (h : retryQueueArguments c = .ok arguments) (reported : String) :
    ((declared c reported).filterMap fun
      | .queue name _ arguments => some (name, arguments)
      | _ => none) =
      [(c.mainQueue, mainQueueArguments c), (c.deadLetterQueue, .empty),
        (c.retryQueue, arguments)] := by
  rw [declared_eq h]
  rfl

/-- The arguments of the retry queue are those of a queue that leads to the main exchange, and the
time that a message stays. -/
theorem retryQueueArguments_eq (h : retryQueueArguments c = .ok arguments) :
    ∃ ttl, timeToLive c.retryDelay = .ok ttl ∧ arguments =
      (deadLetterArguments c.mainExchange c.mainRoutingKey).insert messageTtlArgument
        (.int64 ttl) := by
  unfold retryQueueArguments at h
  cases httl : timeToLive c.retryDelay with
  | error e => rw [httl] at h; cases h
  | ok ttl =>
    rw [httl] at h
    cases h
    exact ⟨ttl, rfl, rfl⟩

/-! ### Where they lead -/

theorem deadLetterRoute?_deadLetterArguments (exchange routingKey : String) :
    deadLetterRoute? (deadLetterArguments exchange routingKey) = some (exchange, routingKey) := by
  have hne : deadLetterExchangeArgument ≠ deadLetterRoutingKeyArgument := by decide
  simp only [deadLetterRoute?, deadLetterArguments, Keyed.get?_insert, if_neg hne, if_true]

/-- A message that is rejected from the main queue goes to the dead-letter exchange. -/
theorem deadLetterRoute?_main :
    deadLetterRoute? (mainQueueArguments c) = some (c.deadLetterExchange, c.deadLetterRoutingKey) :=
  deadLetterRoute?_deadLetterArguments _ _

/-- A message that expires in the retry queue goes to the main exchange. -/
theorem deadLetterRoute?_retry (h : retryQueueArguments c = .ok arguments) :
    deadLetterRoute? arguments = some (c.mainExchange, c.mainRoutingKey) := by
  have hexchange : deadLetterExchangeArgument ≠ messageTtlArgument := by decide
  have hkey : deadLetterRoutingKeyArgument ≠ messageTtlArgument := by decide
  obtain ⟨ttl, -, rfl⟩ := retryQueueArguments_eq h
  rw [← deadLetterRoute?_deadLetterArguments c.mainExchange c.mainRoutingKey]
  simp only [deadLetterRoute?, Keyed.get?_insert _ messageTtlArgument, if_neg hexchange,
    if_neg hkey]

/-- No two queues are declared with the same arguments.  A broker refuses to declare one queue in
two ways, so the three queues are three whatever their names. -/
theorem arguments_nodup (h : retryQueueArguments c = .ok arguments) :
    [mainQueueArguments c, .empty, arguments].Nodup := by
  -- only the retry queue limits the time that a message stays
  have hmain : (mainQueueArguments c).get? messageTtlArgument = none := by
    have hexchange : messageTtlArgument ≠ deadLetterExchangeArgument := by decide
    have hkey : messageTtlArgument ≠ deadLetterRoutingKeyArgument := by decide
    rw [mainQueueArguments, deadLetterArguments, Keyed.get?_insert, if_neg hkey,
      Keyed.get?_insert, if_neg hexchange]
    rfl
  have hretry : arguments.get? messageTtlArgument ≠ none := by
    obtain ⟨ttl, -, rfl⟩ := retryQueueArguments_eq h
    rw [Keyed.get?_insert, if_pos rfl]
    exact Option.some_ne_none _
  -- only the dead-letter queue leads nowhere
  have hempty : deadLetterRoute? .empty = none := rfl
  have hleads : deadLetterRoute? (mainQueueArguments c) ≠ none := by
    rw [deadLetterRoute?_main]
    exact Option.some_ne_none _
  have hleads' : deadLetterRoute? arguments ≠ none := by
    rw [deadLetterRoute?_retry h]
    exact Option.some_ne_none _
  have hne : mainQueueArguments c ≠ .empty := fun heq => hleads (heq ▸ hempty)
  have hne' : mainQueueArguments c ≠ arguments := fun heq => hretry (heq ▸ hmain)
  have hne'' : Keyed.empty ≠ arguments := fun heq => hleads' (heq ▸ hempty)
  simp [hne, hne', hne'']

end Topology

/-! ### With a valid configuration -/

namespace Config

variable {c : Config}

/-- The three exchanges of a valid configuration are different. -/
theorem exchanges_ne (h : c.validate = .ok ()) : c.mainExchange ≠ c.retryExchange ∧
    c.mainExchange ≠ c.deadLetterExchange ∧ c.retryExchange ≠ c.deadLetterExchange := by
  have hnodup := (validate_eq_ok_iff.1 h).distinct
  simpa [exchanges, and_assoc] using hnodup

/-- An accepted notification goes to the main queue. -/
theorem queuesOf_main (h : c.validate = .ok ()) :
    Topology.queuesOf c.topology c.mainExchange c.mainRoutingKey = [.main] := by
  obtain ⟨hretry, hdead, -⟩ := exchanges_ne h
  simp [Topology.queuesOf, Topology.bindings, topology, Ne.symm hretry, Ne.symm hdead]

/-- A retry goes to the retry queue. -/
theorem queuesOf_retry (h : c.validate = .ok ()) :
    Topology.queuesOf c.topology c.retryExchange c.retryRoutingKey = [.retry] := by
  obtain ⟨hretry, -, hdead⟩ := exchanges_ne h
  simp [Topology.queuesOf, Topology.bindings, topology, hretry, Ne.symm hdead]

/-- A message given up goes to the dead-letter queue. -/
theorem queuesOf_deadLetter (h : c.validate = .ok ()) :
    Topology.queuesOf c.topology c.deadLetterExchange c.deadLetterRoutingKey = [.deadLetter] := by
  obtain ⟨-, hmain, hretry⟩ := exchanges_ne h
  simp [Topology.queuesOf, Topology.bindings, topology, hmain, hretry]

end Config

end Courier
