import Courier.Log
import Courier.Rehearsal.Broker
import Courier.Worker.Pool

/-!
# A rehearsal of the workers

The pool is played against a scripted broker and a provider whose answers take time.  The workers
take turns; whoever waits for the provider lets the others go on, and when all of them wait the
clock moves to the next answer.

## Main definitions

* `Rehearsal.Stage`: what a pool has around it.
* `Rehearsal.Crew`: a pool on a stage.
* `Rehearsal.Crew.turn?`: what a worker does next, if it does anything now.
* `Rehearsal.Crew.play`: turns and time up to a condition.
* `Rehearsal.Shift.run`: a pool from its preparation to its end.
-/

namespace Courier

namespace Rehearsal

open Worker (Pool)

/-- An answer of the provider that is on its way. -/
structure Awaited where
  /-- The worker who waits for it. -/
  worker : Nat
  /-- When it comes, or when the worker gives up. -/
  due : Nat
  /-- The answer. -/
  reply : Processing.Reply

/-- What a pool has around it. -/
structure Stage (σ : Type) where
  broker : Broker Channel
  provider : σ
  /-- The counters. -/
  metrics : Metrics
  /-- The levels of the log, the latest first. -/
  log : List Log.Level
  /-- The time in milliseconds. -/
  clock : Nat
  /-- How many notifications the provider was given. -/
  sends : Nat
  /-- The answers on their way. -/
  awaited : List Awaited

namespace Stage

variable {σ : Type}

/-- A stage on which nothing has happened. -/
def start (script : BrokerScript) (provider : σ) : Stage σ where
  broker := .start script
  provider := provider
  metrics := .zero
  log := []
  clock := 0
  sends := 0
  awaited := []

/-- Counts an event and writes it to the log. -/
def count (s : Stage σ) (e : Metrics.Event) : Stage σ :=
  { s with metrics := s.metrics.record e, log := Log.levelOf e :: s.log }

/-- A dialogue with the broker. -/
def talk {α : Type} (s : Stage σ) (d : Amqp.Connection Channel α) : α × Stage σ :=
  let (a, broker) := s.broker.talk d
  (a, { s with broker })

/-- The answer that a worker waits for. -/
def awaitedBy? (s : Stage σ) (worker : Nat) : Option Awaited :=
  s.awaited.find? fun a => a.worker = worker

end Stage

/-- A provider, which may change with every notification; without an answer, whoever asks dies. -/
abbrev Sending (σ : Type) := String → Notification → σ → Option Processing.Reply × σ

/-- A pool on a stage. -/
structure Crew (σ : Type) where
  /-- How the workers handle occurrences. -/
  config : Processing.Config
  /-- How the provider answers. -/
  send : Sending σ
  pool : Pool
  stage : Stage σ

namespace Crew

variable {σ : Type}

/-- The crew after an event of the pool. -/
def event (c : Crew σ) (e : Pool.Event) : Crew σ :=
  { c with pool := (c.pool.step? c.config e).getD c.pool }

/-- The provider is given the notification of a worker. -/
def begin (c : Crew σ) (worker : Nat) (token : String) (n : Notification) : Crew σ :=
  let (reply?, provider) := c.send token n c.stage.provider
  let stage := { c.stage with provider, sends := c.stage.sends + 1 }
  match reply? with
  | none => { c.event (.crash worker) with stage }
  | some reply =>
    let due := stage.clock + min reply.delay c.config.deliveryTimeout.millis
    { c with stage := { stage with awaited := ⟨worker, due, reply⟩ :: stage.awaited } }

/-- The answer to a worker who handles a delivery.  The provider is asked beforehand, so that its
answer is there; were it not, this would be a failure of the transport. -/
def answer (worker : Nat) (tag : UInt64) (q : Processing.Action) (s : Stage σ) :
    q.Answer × Stage σ :=
  match q with
  | .count e => ((), s.count e)
  | .settle settlement => s.talk (Amqp.settle (.worker worker) tag settlement)
  | .publish m => s.talk (Amqp.publish (.worker worker) m)
  | .send .. =>
    (((s.awaitedBy? worker).map Awaited.reply).getD ⟨0, .error (.transport none)⟩,
      { s with awaited := s.awaited.filter fun a => a.worker ≠ worker })

/-- A worker who handles a delivery has its question answered. -/
def handle (c : Crew σ) (worker : Nat) (tag : UInt64) (q : Processing.Action) : Crew σ :=
  { c.event (.handle worker fun q => (answer worker tag q c.stage).1) with
    stage := (answer worker tag q c.stage).2 }

/-- A worker who handles a delivery goes on, unless it waits for the provider. -/
def proceed? (c : Crew σ) (worker : Nat) (tag : UInt64) (q : Processing.Action) :
    Option (Crew σ) :=
  match q with
  | .send token n =>
    match c.stage.awaitedBy? worker with
    | none => some (c.begin worker token n)
    | some a => if a.due ≤ c.stage.clock then some (c.handle worker tag q) else none
  | q => some (c.handle worker tag q)

/-- An idle worker looks at the token and then at its consumer. -/
def look? (c : Crew σ) (worker : Nat) : Option (Crew σ) :=
  if c.pool.cancelled then some (c.event (.leave worker))
  else if (c.stage.broker.consumer? (.worker worker)).isNone then
    let c := c.event (.lose worker)
    some { c with stage := { c.stage with log := .error :: c.stage.log } }
  else
    (c.stage.broker.handOut? (.worker worker)).map fun (tag, occurrence, broker) =>
      { c.event (.deliver worker tag occurrence) with stage := { c.stage with broker } }

/-- What a worker writes to the log when its end does not go as it should: it warns if the broker
refuses to take the consumer or the channel back. -/
def complaint : (q : Amqp.Ask Channel) → q.Answer → List Log.Level
  | .call _ _, .error _ => [.warn]
  | _, _ => []

/-- What a worker does next, if it does anything now. -/
def turn? (c : Crew σ) (worker : Nat) : Option (Crew σ) :=
  match c.pool.workers[worker]? with
  | none => none
  | some .gone => none
  | some .crashed => none
  | some .idle => c.look? worker
  | some (.handling _ (.done _)) => some (c.event (.conclude worker))
  | some (.handling tag (.ask q _)) => c.proceed? worker tag q
  | some (.retiring (.done _)) => some (c.event (.vanish worker))
  | some (.retiring (.ask q _)) =>
    some { c.event (.retire worker fun q => (Broker.answer q c.stage.broker).1) with
      stage := { c.stage with
        broker := (Broker.answer q c.stage.broker).2
        log := complaint q (Broker.answer q c.stage.broker).1 ++ c.stage.log } }

/-- One turn of every worker, if any of them does something. -/
def round? (c : Crew σ) : Option (Crew σ) :=
  let (c, moved) := (List.range c.pool.workers.length).foldl (fun (c, moved) worker =>
    match c.turn? worker with
    | some c => (c, true)
    | none => (c, moved)) (c, false)
  if moved then some c else none

/-- When the next answer comes. -/
def nextDue? (c : Crew σ) : Option Nat := (c.stage.awaited.map Awaited.due).min?

/-- The clock moves to a time. -/
def moveTo (c : Crew σ) (time : Nat) : Crew σ := { c with stage := { c.stage with clock := time } }

/-- Turns and time until a condition holds when nobody does anything, or until nothing is left to
wait for. -/
def play (halt : Crew σ → Bool) : Nat → Crew σ → Crew σ
  | 0, c => c
  | fuel + 1, c =>
    match c.round? with
    | some c => play halt fuel c
    | none =>
      if halt c then c
      else
        match c.nextDue? with
        | some time => play halt fuel (c.moveTo time)
        | none => c

/-- More turns than the workers have: no delivery takes a worker more than ten of them, and no
other end more than five. -/
def turns (c : Crew σ) : Nat :=
  16 * (c.stage.broker.subscriptions.foldl (fun n s => n + s.parcels.length) 0 +
    c.pool.workers.length + 1)

/-- The workers go on until a condition holds, the pool has stopped itself or nothing is left. -/
def work (c : Crew σ) (enough : Crew σ → Bool) : Crew σ :=
  c.play (fun c => c.pool.cancelled || enough c) c.turns

/-- The broker ends the consumers, and whoever notices goes on. -/
def endConsumers (c : Crew σ) : Crew σ :=
  let c := { c with stage := { c.stage with broker := c.stage.broker.endConsumers } }
  c.play (fun _ => true) c.turns

/-- The token is cancelled. -/
def cancel (c : Crew σ) : Crew σ := c.event .cancel

/-- The workers are waited for, but no longer than for some time. -/
def join (c : Crew σ) (grace : Duration) : Crew σ :=
  let deadline := c.stage.clock + grace.millis
  c.play (fun c => c.nextDue?.any (deadline < ·)) c.turns

end Crew

/-- What became of a pool. -/
structure Shift (σ : Type) where
  /-- Whether it could be prepared. -/
  prepared : Except BrokerError Unit
  /-- Whether it stopped itself. -/
  stoppedItself : Bool
  /-- What it had around it. -/
  stage : Stage σ

/-- A pool from its preparation to its end. -/
def Shift.run {σ : Type} (c : Config) (queue : String) (send : Sending σ) (enough : Crew σ → Bool)
    (stage : Stage σ) : Shift σ :=
  let (_, stage) := stage.talk (Amqp.connect stage.broker.script.url)
  let (prepared, stage) := stage.talk (Worker.prepareAll c.workers queue)
  match prepared with
  | .error e => ⟨.error e, false, (stage.talk Amqp.disconnect).2⟩
  | .ok () =>
    let crew : Crew σ := ⟨c.processing, send, .start c.workers.count.toNat, stage⟩
    let crew := (crew.work enough).endConsumers
    let rest := crew.cancel.join c.workers.grace
    ⟨.ok (), crew.pool.cancelled, (rest.stage.talk Amqp.disconnect).2⟩

end Rehearsal

end Courier
