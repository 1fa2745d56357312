import Courier.Publishing.Basic

/-!
# The publisher

One task owns the channel of the intake.  Callers queue their messages for it and wait; the task
takes them one at a time, in the order of their queuing, and gives every caller the answer of the
channel.  It ends by itself once nobody can queue anything more and nothing waits, and it can be
cut short, in which case those who wait learn only that there will be no answer.

## Main definitions

* `Publishing.Job`: a message and who waits for it.
* `Publishing.Line`: the task with its queue.
* `Publishing.Line.step?`: an event, if it can happen.
-/

namespace Courier

namespace Publishing

/-- A message and who waits for it. -/
structure Job where
  /-- The one who waits. -/
  caller : Nat
  message : Amqp.Outgoing
  deriving DecidableEq, Repr

/-- What the task is busy with. -/
inductive Work where
  /-- It waits for a job. -/
  | nothing
  /-- The channel has been given the message of a job. -/
  | offering (job : Job)
  /-- The channel has answered, and the caller is to be told. -/
  | answering (job : Job) (result : Except BrokerError Unit)

/-- The job that the task is busy with, if any. -/
def Work.job? : Work → Option Job
  | .nothing => none
  | .offering job => some job
  | .answering job _ => some job

/-- What has become of the task. -/
inductive Phase where
  /-- It takes jobs. -/
  | running
  /-- It ended because there was nothing left to do. -/
  | finished
  /-- It was cut short. -/
  | aborted
  deriving DecidableEq, Repr

/-- The task with its queue. -/
structure Line where
  /-- How many jobs may wait. -/
  capacity : Nat
  /-- Whether anybody may still queue jobs. -/
  isOpen : Bool
  /-- The jobs that wait, the oldest first. -/
  waiting : List Job
  /-- What the task is busy with. -/
  work : Work
  /-- What has become of the task. -/
  phase : Phase
  /-- What the callers were told, the latest first. -/
  told : List (Nat × Receipt)

namespace Line

/-- A new task for a configured buffer. -/
def start (c : Config) : Line where
  capacity := max c.buffer.toNat 1
  isOpen := true
  waiting := []
  work := .nothing
  phase := .running
  told := []

/-- What can happen. -/
inductive Event where
  /-- A job is queued. -/
  | enqueue (job : Job)
  /-- The task gives the oldest job to the channel. -/
  | take
  /-- The channel answers. -/
  | answer (result : Except BrokerError Unit)
  /-- The answer is passed on; it is lost on a caller who no longer waits. -/
  | tell
  /-- Nobody can queue jobs any more. -/
  | close
  /-- The task ends because nothing is left. -/
  | finish
  /-- The task is cut short. -/
  | abort

/-- The answer of a channel as a receipt. -/
def receiptOf : Except BrokerError Unit → Receipt
  | .ok () => .confirmed
  | .error e => .refused e

/-- The jobs that the task has not come to or not done with. -/
def unfinished (l : Line) : List Job := l.work.job?.toList ++ l.waiting

/-- The line after an event, if it can happen. -/
def step? (l : Line) : Event → Option Line
  | .enqueue job =>
    if l.phase = .running ∧ l.isOpen ∧ l.waiting.length < l.capacity then
      some { l with waiting := l.waiting ++ [job] }
    else none
  | .take =>
    match l.phase, l.work, l.waiting with
    | .running, .nothing, job :: rest => some { l with waiting := rest, work := .offering job }
    | _, _, _ => none
  | .answer result =>
    match l.work with
    | .offering job => some { l with work := .answering job result }
    | _ => none
  | .tell =>
    match l.work with
    | .answering job result =>
      some { l with work := .nothing, told := (job.caller, receiptOf result) :: l.told }
    | _ => none
  | .close => some { l with isOpen := false }
  | .finish =>
    match l.phase, l.isOpen, l.work, l.waiting with
    | .running, false, .nothing, [] => some { l with phase := .finished }
    | _, _, _, _ => none
  | .abort =>
    if l.phase = .running then
      some { l with
        phase := .aborted
        waiting := []
        work := .nothing
        told := l.unfinished.map (fun job => (job.caller, .unanswered)) ++ l.told }
    else none

/-- Whether the task still takes jobs. -/
def isRunning (l : Line) : Bool := l.phase == .running

/-- Several events in a row, as far as they can happen. -/
def steps (l : Line) (events : List Event) : Line :=
  events.foldl (fun l e => (l.step? e).getD l) l

end Line

end Publishing

end Courier
