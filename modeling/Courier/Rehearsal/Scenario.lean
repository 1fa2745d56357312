import Courier.Config.Basic
import Courier.Intake.Basic
import Courier.Publishing.Line

/-!
# A rehearsal of the pipeline

The pipeline is played without broker, provider and clock: every step says how the others behave
during it.  What they see is noted, and the messages that a channel took can be handed out again.

## Main definitions

* `Rehearsal.World`: the pipeline between two steps.
* `Rehearsal.World.process`, `Rehearsal.World.publish`, `Rehearsal.World.http`: the steps.
-/

namespace Courier

namespace Rehearsal

/-- How a channel behaves when it is given a message. -/
inductive Verdict where
  /-- It takes the message. -/
  | accept
  /-- It does not. -/
  | refuse (e : BrokerError)
  /-- The task that uses it dies. -/
  | die

/-- The channels of the pipeline. -/
inductive Via where
  | main
  | retry
  deriving DecidableEq, Repr

/-- What the partners of the pipeline see. -/
inductive Sight where
  /-- The provider is given a notification for a device. -/
  | send (token requestId : String)
  /-- A delivery is settled, or should have been. -/
  | settle (settlement : Amqp.Settlement) (succeeded : Bool)
  /-- A channel is given a message. -/
  | publish (message : Amqp.Outgoing) (via : Via) (accepted : Bool)

/-- The pipeline between two steps. -/
structure World where
  /-- The configuration. -/
  config : Config
  /-- The counters. -/
  metrics : Metrics
  /-- Whether there is a connection to the broker. -/
  connected : Bool
  /-- Whether messages can still be handed to the publisher. -/
  hasPublisher : Bool
  /-- The publisher's task, unless it was waited for. -/
  line : Option Publishing.Line
  /-- What was seen during the present step, the latest first. -/
  seen : List Sight
  /-- The rest of the script of the channel in use; it accepts everything after that. -/
  script : List Verdict
  /-- What the main channel took and nobody was given yet. -/
  main : List Amqp.Outgoing
  /-- What the retry channel took and nobody was given yet. -/
  retries : List Amqp.Outgoing

namespace World

/-- A world in which nothing has happened. -/
def start (c : Config) : World where
  config := c
  metrics := .zero
  connected := true
  hasPublisher := true
  line := some (.start c.publishing)
  seen := []
  script := []
  main := []
  retries := []

/-- The world at the beginning of a step with a script for its channel. -/
def begin (w : World) (script : List Verdict) : World := { w with seen := [], script := script }

/-- Counts an event. -/
def count (w : World) (e : Metrics.Event) : World := { w with metrics := w.metrics.record e }

/-- Notes a sight. -/
def note (w : World) (s : Sight) : World := { w with seen := s :: w.seen }

/-- The next verdict of the script. -/
def verdict (w : World) : Verdict × World :=
  match w.script with
  | [] => (.accept, w)
  | v :: rest => (v, { w with script := rest })

/-- Keeps a message that a channel took. -/
def keep (w : World) (m : Amqp.Outgoing) : Via → World
  | .main => { w with main := w.main ++ [m] }
  | .retry => { w with retries := w.retries ++ [m] }

/-- Takes the oldest message that a channel took. -/
def take? (w : World) : Via → Option (Amqp.Outgoing × World)
  | .main =>
    match w.main with
    | [] => none
    | m :: rest => some (m, { w with main := rest })
  | .retry =>
    match w.retries with
    | [] => none
    | m :: rest => some (m, { w with retries := rest })

/-- How the partners of a worker behave while it handles an occurrence. -/
structure Partners where
  /-- The answer of the provider. -/
  reply : Processing.Reply
  /-- Whether an acknowledgement reaches the broker. -/
  ack : Except BrokerError Unit
  /-- Whether a rejection reaches the broker. -/
  reject : Except BrokerError Unit

/-- Whether an attempt succeeded. -/
def succeeded (r : Except BrokerError Unit) : Bool := r matches .ok ()

/-- The answer to an action of a worker. -/
def answerWorker (p : Partners) (a : Processing.Action) (w : World) : a.Answer × World :=
  match a with
  | .count e => ((), w.count e)
  | .send token n => (p.reply, w.note (.send token n.requestId))
  | .settle .ack => (p.ack, w.note (.settle .ack (succeeded p.ack)))
  | .settle .reject => (p.reject, w.note (.settle .reject (succeeded p.reject)))
  | .publish m =>
    match w.verdict with
    | (.accept, w) => (.ok (), (w.note (.publish m .retry true)).keep m .retry)
    | (.refuse e, w) => (.error e, w.note (.publish m .retry false))
    | (.die, w) => (.error (.publish m.exchange none), w.note (.publish m .retry false))

/-- A worker handles an occurrence. -/
def process (w : World) (p : Partners) (o : Amqp.Occurrence) : Outcome × World :=
  (Processing.process w.config.processing o).run (answerWorker p) w

/-- The publisher's channel is given a message whose caller waits. -/
def offer (w : World) (line : Publishing.Line) (m : Amqp.Outgoing) : Publishing.Receipt × World :=
  let taken := line.steps [.enqueue ⟨0, m⟩, .take]
  match w.verdict with
  | (.accept, w) =>
    (.confirmed, { (w.note (.publish m .main true)).keep m .main with
      line := some (taken.steps [.answer (.ok ()), .tell]) })
  | (.refuse e, w) =>
    (.refused e, { w.note (.publish m .main false) with
      line := some (taken.steps [.answer (.error e), .tell]) })
  | (.die, w) =>
    (.unanswered, { w.note (.publish m .main false) with line := some (taken.steps [.abort]) })

/-- A message is handed to the publisher. -/
def submit (w : World) (m : Amqp.Outgoing) : Publishing.Receipt × World :=
  match w.line with
  | some line => if line.isRunning then w.offer line m else (.unanswered, w)
  | none => (.unanswered, w)

/-- The answer to an action of a caller of the publisher. -/
def answerCaller (a : Publishing.Action) (w : World) : a.Answer × World :=
  match a with
  | .count e => ((), w.count e)
  | .submit m => w.submit m

/-- A notification is queued. -/
def publish (w : World) (n : Notification) : Except PublishError Unit × World :=
  (Publishing.publish w.config.publishing n).run answerCaller w

/-- The health of the service. -/
def health (w : World) : Health.Report := Health.check w.connected w.metrics

/-- A request reaches the interface. -/
def http (w : World) (r : Intake.Request) : Intake.Response × World :=
  (Intake.respond w.config.publishing w.health r).run answerCaller w

/-- The publisher's task is killed and waited for. -/
def abortPublisher (w : World) : World := { w with line := none }

/-- How a publisher's task has ended. -/
inductive Ending where
  | clean
  | died
  | noTask

/-- Messages can no longer be handed to the publisher, whose task is waited for. -/
def dropPublisher (w : World) : Ending × World :=
  let rest := { w with hasPublisher := false, line := none }
  match w.line with
  | none => (.noTask, rest)
  | some line =>
    match (line.steps [.close, .finish]).phase with
    | .aborted => (.died, rest)
    | _ => (.clean, rest)

/-- A new publisher is started. -/
def restartPublisher (w : World) : World :=
  { w with hasPublisher := true, line := some (.start w.config.publishing) }

end World

end Rehearsal

end Courier
