import Courier.Proofs.Processing.Discipline
import Courier.Proofs.Topology.Routing
import Courier.Worker.Pool
import Mathlib.Logic.Function.Basic

/-!
# The pipeline as a whole

Any number of workers consume the main queue of one broker.  The broker accepts notifications,
hands copies of them to idle workers, keeps each of them until it is settled, and takes it back when
the channel of its worker goes away; it routes by what the topology declares.  The workers go
through their tasks question by question, and a settlement or a publication can fail at any time.

The number of a message is its place among the accepted ones.  It stays with all copies of the
message, so that they can be counted; no participant can see it.

* `Pipeline` : the workers, and the `Pipeline.World` around them.
* `Pipeline.World.Reacts` : how the world answers a question of a worker.
* `Pipeline.Step`, `Pipeline.Reachable` : one step of any participant, and what can become of a new
  pipeline.
* `Pipeline.live`, `Pipeline.ended` : how many copies are alive, and how many messages have ended,
  among those with some numbers.
-/

namespace Courier

/-- How a message ends for good. -/
inductive Fate where
  | delivered
  /-- It was given up and went to the dead-letter queue. -/
  | deadLettered
  /-- It was lost on the way to a retry. -/
  | lost
  deriving DecidableEq, Repr

/-- How an occurrence with an outcome ended its message, if it did. -/
def Outcome.fate? : Outcome → Option Fate
  | .succeeded _ => some .delivered
  | .retrying _ => none
  | .retryLost _ => some .lost
  | .deadLettered _ => some .deadLettered
  | .settlementFailed => none

/-- How an event tells of a message that it ended, if it does. -/
def Metrics.Event.fate? : Metrics.Event → Option Fate
  | .outcome o => o.fate?
  | .published => none
  | .publishFailure => none
  | .received => none
  | .deliveryFailure => none

/-- How many messages ended in one way, by the counters. -/
def Metrics.tally (m : Metrics) : Fate → UInt64
  | .delivered => m.succeeded
  | .deadLettered =>
    m.deadLettered.malformedPayload + m.deadLettered.unsupportedType +
      m.deadLettered.missingRecipient + m.deadLettered.retriesExhausted
  | .lost => m.retryPublishFailures

/-- A copy of an accepted message. -/
structure Pipeline.Copy where
  /-- The number of the message. -/
  id : Nat
  /-- What a worker is handed. -/
  occurrence : Amqp.Occurrence

namespace Pipeline

/-- A copy that was handed to a worker and is not settled. -/
structure Held where
  worker : Nat
  /-- The tag of the delivery on the channel of the worker. -/
  tag : UInt64
  copy : Copy

/-- The world around the workers. -/
structure World where
  /-- The notifications that the broker accepted, the oldest first. -/
  accepted : List Notification
  queues : Topology.Queue → List Copy
  /-- The copies that were handed out and are not settled. -/
  held : List Held
  /-- Whether the channel of a worker is still there. -/
  isAlive : Nat → Bool
  /-- The message that a worker was handed last. -/
  serving : Nat → Nat
  /-- What the provider replied, each with the message that it was given, the latest first. -/
  replies : List (Nat × Processing.Reply)
  /-- The outcomes that were reported, each with its message, the latest first. -/
  reports : List (Nat × Outcome)
  /-- The counters. -/
  metrics : Metrics

namespace World

/-- Nothing has been accepted. -/
def start : World where
  accepted := []
  queues _ := []
  held := []
  isAlive _ := true
  serving _ := 0
  replies := []
  reports := []
  metrics := .zero

/-- A copy goes to a queue. -/
def put (w : World) (q : Topology.Queue) (copy : Copy) : World :=
  { w with queues := Function.update w.queues q (w.queues q ++ [copy]) }

/-- A copy goes where an exchange leads by a key. -/
def store (w : World) (c : Config) (exchange routingKey : String) (copy : Copy) : World :=
  (Topology.queuesOf c.topology exchange routingKey).foldl (fun w q => w.put q copy) w

/-- A copy that left a queue unconsumed goes where the arguments of the queue say. -/
def expel (w : World) (c : Config) (arguments : Amqp.Table) (copy : Copy) : World :=
  match Topology.deadLetterRoute? arguments with
  | some (exchange, routingKey) => w.store c exchange routingKey copy
  | none => w

/-- Other copies are unsettled. -/
def settle (w : World) (held : List Held) : World := { w with held := held }

/-- The counters are different. -/
def recount (w : World) (m : Metrics) : World := { w with metrics := m }

/-- A queue has another content. -/
def refill (w : World) (q : Topology.Queue) (copies : List Copy) : World :=
  { w with queues := Function.update w.queues q copies }

/-- One more notification is accepted. -/
def enter (w : World) (n : Notification) : World := { w with accepted := w.accepted ++ [n] }

/-- The broker accepts the message of a notification. -/
def accept (w : World) (c : Config) (n : Notification) : World :=
  (w.enter n).store c c.publishing.exchange c.publishing.routingKey
    ⟨w.accepted.length, (Publishing.messageOf c.publishing n).occurrence⟩

/-- A copy is handed to a worker under a tag. -/
def hand (w : World) (i : Nat) (tag : UInt64) (copy : Copy) : World :=
  { w with held := ⟨i, tag, copy⟩ :: w.held, serving := Function.update w.serving i copy.id }

/-- The channel of a worker goes away, and the broker takes its unsettled copies back. -/
def drop (w : World) (i : Nat) : World :=
  { w with
    isAlive := Function.update w.isAlive i false
    held := w.held.filter fun h => h.worker != i
    queues := Function.update w.queues .main
      (w.queues .main ++ (w.held.filter fun h => h.worker == i).map Held.copy) }

/-- A worker hears a reply of the provider. -/
def hear (w : World) (i : Nat) (reply : Processing.Reply) : World :=
  { w with replies := (w.serving i, reply) :: w.replies }

/-- A worker counts an event. -/
def count (w : World) (i : Nat) (e : Metrics.Event) : World :=
  { w with
    metrics := w.metrics.record e
    reports := match e with
      | .outcome o => (w.serving i, o) :: w.reports
      | _ => w.reports }

/-- How the world answers a question of a worker that handles the delivery with a tag. -/
inductive Reacts (c : Config) (w : World) (i : Nat) (tag : UInt64) :
    (a : Processing.Action) → a.Answer → World → Prop where
  /-- Counting never fails. -/
  | count (e : Metrics.Event) : Reacts c w i tag (.count e) () (w.count i e)
  /-- The provider replies whatever it likes. -/
  | send (token : String) (n : Notification) (reply : Processing.Reply) :
    Reacts c w i tag (.send token n) reply (w.hear i reply)
  /-- The broker gets an acknowledgement and forgets the copy. -/
  | acknowledged (before after : List Held) (copy : Copy) :
    w.isAlive i = true → w.held = before ++ ⟨i, tag, copy⟩ :: after →
      Reacts c w i tag (.settle .ack) (.ok ()) (w.settle (before ++ after))
  /-- The broker gets a rejection, and the copy leaves the main queue unconsumed. -/
  | rejected (before after : List Held) (copy : Copy) :
    w.isAlive i = true → w.held = before ++ ⟨i, tag, copy⟩ :: after →
      Reacts c w i tag (.settle .reject) (.ok ())
        ((w.settle (before ++ after)).expel c (Topology.mainQueueArguments c.topology) copy)
  /-- A settlement fails, and the copy stays unsettled. -/
  | unsettled (k : Amqp.Settlement) (e : BrokerError) : Reacts c w i tag (.settle k) (.error e) w
  /-- The broker takes a retry. -/
  | published (m : Amqp.Outgoing) :
    w.isAlive i = true →
      Reacts c w i tag (.publish m) (.ok ())
        (w.store c m.exchange m.routingKey ⟨w.serving i, m.occurrence⟩)
  /-- A publication fails, and nothing is stored. -/
  | unpublished (m : Amqp.Outgoing) (e : BrokerError) :
    Reacts c w i tag (.publish m) (.error e) w

end World

end Pipeline

/-- The workers and the world around them. -/
structure Pipeline where
  world : Pipeline.World
  pool : Worker.Pool

namespace Pipeline

/-- A new pipeline with some workers. -/
def start (workers : Nat) : Pipeline := ⟨.start, .start workers⟩

/-- The events of the pool that touch no message. -/
def isQuiet : Worker.Pool.Event → Bool
  | .deliver .. => false
  | .lose _ => true
  | .leave _ => true
  | .handle .. => false
  | .conclude _ => true
  | .retire .. => true
  | .vanish _ => true
  | .crash _ => false
  | .cancel => true

/-- What can happen, as long as no worker crashes. -/
inductive Step (c : Config) (s : Pipeline) : Pipeline → Prop where
  /-- The broker accepts a notification. -/
  | accept (n : Notification) : Step c s { s with world := s.world.accept c n }
  /-- The intake counts something. -/
  | intake (e : Metrics.Event) (counted : e = .published ∨ e = .publishFailure) :
    Step c s { s with world := s.world.recount (s.world.metrics.record e) }
  /-- The broker hands a copy to an idle worker. -/
  | deliver (i : Nat) (tag : UInt64) (before after : List Copy) (copy : Copy) (pool : Worker.Pool)
      (queued : s.world.queues .main = before ++ copy :: after) (alive : s.world.isAlive i = true)
      (fresh : ∀ h ∈ s.world.held, h.worker = i → h.tag ≠ tag)
      (takes : s.pool.step? c.processing (.deliver i tag copy.occurrence) = some pool) :
    Step c s ⟨(s.world.refill .main (before ++ after)).hand i tag copy, pool⟩
  /-- A worker asks the next question of its task and gets an answer. -/
  | handle (i : Nat) (tag : UInt64) (a : Processing.Action) (next : a.Answer → Processing.Task)
      (answers : (a : Processing.Action) → a.Answer) (world : World) (pool : Worker.Pool)
      (asks : s.pool.workers[i]? = some (.handling tag (.ask a next)))
      (reacts : World.Reacts c s.world i tag a (answers a) world)
      (goes : s.pool.step? c.processing (.handle i answers) = some pool) :
    Step c s ⟨world, pool⟩
  /-- Something happens in the pool that touches no message. -/
  | manage (e : Worker.Pool.Event) (pool : Worker.Pool) (quiet : isQuiet e = true)
      (goes : s.pool.step? c.processing e = some pool) :
    Step c s { s with pool := pool }
  /-- The channel of a worker goes away. -/
  | drop (i : Nat) : Step c s { s with world := s.world.drop i }
  /-- A copy expires in the retry queue, as that was declared. -/
  | expire (arguments : Amqp.Table) (before after : List Copy) (copy : Copy)
      (declared : Topology.retryQueueArguments c.topology = .ok arguments)
      (queued : s.world.queues .retry = before ++ copy :: after) :
    Step c s { s with world := (s.world.refill .retry (before ++ after)).expel c arguments copy }

/-- Of a message it was told, or is about to be told, that its handling had an outcome. -/
def Tells (s : Pipeline) (id : Nat) (outcome : Outcome) : Prop :=
  (id, outcome) ∈ s.world.reports ∨ ∃ i tag next, s.world.serving i = id ∧
    s.pool.workers[i]? = some (.handling tag (.ask (.count (.outcome outcome)) next))

/-- What can become of a new pipeline with some workers. -/
inductive Reachable (c : Config) (workers : Nat) : Pipeline → Prop where
  /-- The beginning. -/
  | start : Reachable c workers (start workers)
  /-- One step more. -/
  | step {s s' : Pipeline} (before : Reachable c workers s) (step : Step c s s') :
    Reachable c workers s'

/-! ### Counting -/

/-- What a worker has yet to do about a message that the broker has let go. -/
inductive Debt where
  /-- It holds the only copy and is about to publish it. -/
  | publish
  /-- It is about to report how the message ended. -/
  | report (fate : Fate)
  deriving DecidableEq, Repr

/-- What a worker has yet to do, by its next question. -/
def debt? : Worker.Phase → Option Debt
  | .handling _ (.ask (.publish _) _) => some .publish
  | .handling _ (.ask (.count e) _) => e.fate?.map .report
  | _ => none

/-- How many workers have something to do about a message with one of some numbers. -/
def owing (s : Pipeline) (d : Debt) (p : Nat → Bool) : Nat :=
  (List.range s.pool.workers.length).countP fun i =>
    p (s.world.serving i) && s.pool.workers[i]?.bind debt? == some d

/-- How many copies with one of some numbers are in a queue. -/
def World.inQueue (w : World) (q : Topology.Queue) (p : Nat → Bool) : Nat :=
  (w.queues q).countP fun copy => p copy.id

/-- How many copies with one of some numbers were handed out and are not settled. -/
def World.unsettled (w : World) (p : Nat → Bool) : Nat := w.held.countP fun h => p h.copy.id

/-- How many messages with one of some numbers were reported to have ended in one way. -/
def World.reported (w : World) (fate : Fate) (p : Nat → Bool) : Nat :=
  w.reports.countP fun r => p r.1 && r.2.fate? == some fate

/-- How many copies of messages with one of some numbers are alive: in the main queue, in the retry
queue, unsettled, or with a worker that acknowledged one and is about to publish the next. -/
def live (s : Pipeline) (p : Nat → Bool) : Nat :=
  s.world.inQueue .main p + s.world.inQueue .retry p + s.world.unsettled p + s.owing .publish p

/-- How many messages with one of some numbers ended in one way, whether or not the worker has
already reported it. -/
def ended (s : Pipeline) (fate : Fate) (p : Nat → Bool) : Nat :=
  s.world.reported fate p + s.owing (.report fate) p

end Pipeline

end Courier
