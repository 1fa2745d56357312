import Courier.Processing
import Courier.Worker.Consumer

/-!
# The pool of workers

The workers run side by side and share one token.  An idle worker looks at the token first: if it
is cancelled the worker leaves its loop, and otherwise it takes the next delivery of its consumer
and handles it to the end.  A worker that has lost its consumer cancels the token, so that the pool
stops as a whole.

## Main definitions

* `Worker.Phase`: where a worker is in its life.
* `Worker.Pool`: the workers and the token.
* `Worker.Pool.step?`: an event, if it can happen.
* `Worker.Pool.Reachable`: what can become of a pool.
-/

namespace Courier

namespace Worker

/-- Where a worker is in its life. -/
inductive Phase where
  /-- It waits for a delivery. -/
  | idle
  /-- It handles the delivery with a tag. -/
  | handling (tag : UInt64) (rest : Processing.Task)
  /-- It has left its loop and gives up what it has. -/
  | retiring (rest : Talk Unit)
  | gone
  /-- It died while it handled a delivery. -/
  | crashed

/-- The workers and the token. -/
structure Pool where
  /-- Whether the token is cancelled. -/
  cancelled : Bool
  workers : List Phase

namespace Pool

/-- A pool whose workers have just been started. -/
def start (count : Nat) : Pool := ⟨false, List.replicate count .idle⟩

/-- What can happen. -/
inductive Event where
  /-- The consumer of a worker yields a delivery. -/
  | deliver (worker : Nat) (tag : UInt64) (occurrence : Amqp.Occurrence)
  /-- The consumer of a worker fails or ends. -/
  | lose (worker : Nat)
  /-- A worker sees that the token is cancelled. -/
  | leave (worker : Nat)
  /-- The handling of a delivery goes on with the answer to its question. -/
  | handle (worker : Nat) (answers : (a : Processing.Action) → a.Answer)
  /-- The handling of a delivery has ended. -/
  | conclude (worker : Nat)
  /-- The end of a worker goes on with the answer to its question. -/
  | retire (worker : Nat) (answers : (a : Amqp.Ask Channel) → a.Answer)
  /-- A worker has ended. -/
  | vanish (worker : Nat)
  /-- A worker dies while it handles a delivery. -/
  | crash (worker : Nat)
  /-- The token is cancelled from outside. -/
  | cancel

/-- The pool with another phase of a worker. -/
def become (p : Pool) (worker : Nat) (phase : Phase) : Pool :=
  { p with workers := p.workers.set worker phase }

/-- The pool after an event, if it can happen. -/
def step? (c : Processing.Config) (p : Pool) : Event → Option Pool
  | .deliver i tag occurrence =>
    match p.workers[i]?, p.cancelled with
    | some .idle, false => some (p.become i (.handling tag (Processing.process c occurrence)))
    | _, _ => none
  | .lose i =>
    match p.workers[i]?, p.cancelled with
    | some .idle, false => some { p.become i (.retiring (retire i)) with cancelled := true }
    | _, _ => none
  | .leave i =>
    match p.workers[i]?, p.cancelled with
    | some .idle, true => some (p.become i (.retiring (retire i)))
    | _, _ => none
  | .handle i answers =>
    match p.workers[i]? with
    | some (.handling tag (.ask q next)) => some (p.become i (.handling tag (next (answers q))))
    | _ => none
  | .conclude i =>
    match p.workers[i]? with
    | some (.handling _ (.done _)) => some (p.become i .idle)
    | _ => none
  | .retire i answers =>
    match p.workers[i]? with
    | some (.retiring (.ask q next)) => some (p.become i (.retiring (next (answers q))))
    | _ => none
  | .vanish i =>
    match p.workers[i]? with
    | some (.retiring (.done ())) => some (p.become i .gone)
    | _ => none
  | .crash i =>
    match p.workers[i]? with
    | some (.handling ..) => some (p.become i .crashed)
    | _ => none
  | .cancel => some { p with cancelled := true }

/-- The pools that some events make of one that has just been started. -/
inductive Reachable (c : Processing.Config) (count : Nat) : Pool → Prop where
  /-- Nothing has happened. -/
  | start : Reachable c count (start count)
  /-- One more event has happened. -/
  | step {p p' : Pool} (e : Event) : Reachable c count p → p.step? c e = some p' →
      Reachable c count p'

variable {c : Processing.Config} {p p' : Pool} {e : Event}

@[simp] theorem cancelled_become (p : Pool) (worker : Nat) (phase : Phase) :
    (p.become worker phase).cancelled = p.cancelled := rfl

@[simp] theorem length_become (p : Pool) (worker : Nat) (phase : Phase) :
    (p.become worker phase).workers.length = p.workers.length := by
  simp [become]

/-- No event changes the number of workers. -/
theorem length_step? (h : p.step? c e = some p') : p'.workers.length = p.workers.length := by
  cases e with
  | cancel =>
    cases h
    rfl
  | deliver | lose | leave | handle | conclude | retire | vanish | crash =>
    -- it happens to one worker in one phase, or not at all
    simp only [step?] at h
    split at h
    · cases h
      exact p.length_become _ _
    · cases h

/-- Every pool that a pool of some workers can become has as many. -/
theorem Reachable.length {count : Nat} (h : Reachable c count p) : p.workers.length = count := by
  induction h with
  | start => simp [Pool.start]
  | step e _ hstep ih => rw [length_step? hstep, ih]

end Pool

end Worker

end Courier
