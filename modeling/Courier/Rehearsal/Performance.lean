import Courier.Intake.Basic
import Courier.Publishing.Line
import Courier.Rehearsal.Crew
import Courier.Rehearsal.Provider
import Courier.Service

/-!
# A rehearsal of the service

The whole service is played: it sets itself up in a given environment, its workers handle what the
scripted broker delivers, some requests are made, and then it is stopped.

## Main definitions

* `Rehearsal.Production`: what is given.
* `Rehearsal.Performance`: what became of it.
* `Rehearsal.perform`: the life of the service.
-/

namespace Courier

namespace Rehearsal

/-- How the service is stopped. -/
inductive Stop where
  /-- It is told to. -/
  | signal
  /-- The broker ends the consumers. -/
  | broker
  deriving DecidableEq, Repr

/-- What is given. -/
structure Production where
  environment : Environment
  broker : BrokerScript
  /-- Whether there are credentials for the provider. -/
  hasCredentials : Bool
  /-- Whether another program has the port. -/
  portBusy : Bool
  provider : ProviderScript
  /-- The requests, in order. -/
  requests : List Intake.Request
  stop : Stop

/-- The requests that the provider has seen, the latest first. -/
abbrev Seen := List Provider.Request

/-- What became of the service. -/
structure Performance where
  /-- What it has around it. -/
  stage : Stage Seen
  /-- Its configuration and its workers, once they have started. -/
  pool : Option (Config × Worker.Pool)
  /-- The answers to requests, the latest first. -/
  responses : List Intake.Response

namespace Performance

/-- A performance before its beginning. -/
def start (p : Production) : Performance := ⟨.start p.broker [], none, []⟩

/-- Writes to the log. -/
def write (w : Performance) (level : Log.Level) : Performance :=
  { w with stage := { w.stage with log := level :: w.stage.log } }

/-- How notifications are sent with a configuration; no answer of a scripted provider takes any
time. -/
def sending (p : ProviderScript) (c : Config) : Sending Seen := fun token n seen =>
  let (result, seen) := p.send ⟨c.fcmBaseUrl, c.fcmProjectId⟩ token n seen
  (some ⟨0, result⟩, seen)

/-- Something that the workers do, if they have started. -/
def withCrew (p : ProviderScript) (w : Performance) (f : Crew Seen → Crew Seen) : Performance :=
  match w.pool with
  | none => w
  | some (c, pool) =>
    let crew := f ⟨c.processing, sending p c, pool, w.stage⟩
    { w with stage := crew.stage, pool := some (c, crew.pool) }

/-- The answer to an action of a caller of the publisher, whose task never fails. -/
def answerCaller (a : Publishing.Action) (s : Stage Seen) : a.Answer × Stage Seen :=
  match a with
  | .count e => ((), s.count e)
  | .submit m =>
    let (result, s) := s.talk (Amqp.publish .publisher m)
    (Publishing.Line.receiptOf result, s)

/-- The level at which an answer is written to the log. -/
def levelOf (r : Intake.Response) : Log.Level := if r.status = 400 then .warn else .debug

/-- A request is made. -/
def request (c : Config) (w : Performance) (r : Intake.Request) : Performance :=
  let health := Health.check w.stage.broker.connected w.stage.metrics
  let (response, stage) := (Intake.respond c.publishing health r).run answerCaller w.stage
  { w with stage, responses := response :: w.responses }.write (levelOf response)

/-- Whether a worker has cancelled the token. -/
def hasFailed (w : Performance) : Bool := w.pool.any fun (_, pool) => pool.cancelled

/-- The service serves: its workers do what they have to, the requests are made, and it is
stopped. -/
def serve (p : Production) (w : Performance) : Service.Cause × Performance :=
  let w := w.withCrew p.provider fun crew => crew.work fun _ => false
  let w := match w.pool with
    | some (c, _) => p.requests.foldl (request c) w
    | none => w
  let w := match p.stop with
    | .signal => w
    | .broker => w.withCrew p.provider Crew.endConsumers
  if w.hasFailed then (.workersFailed, w.write .error) else (.signal, w)

/-- What a step of the service brings. -/
def answer (p : Production) (s : Service.Step) (w : Performance) : s.Answer × Performance :=
  match s with
  | .loadConfig =>
    match Config.load p.environment with
    | .ok c => (.ok c, w.write .info)
    | .error e => (.error e, w)
  | .broker q =>
    let (a, broker) := Broker.answer q w.stage.broker
    (a, { w with stage := { w.stage with broker } })
  | .findCredentials => (if p.hasCredentials then .ok () else .error none, w)
  | .startWorkers c => ((), { w with pool := some (c, .start c.workers.count.toNat) })
  | .startPublisher _ => ((), w)
  | .bindPort _ => (if p.portBusy then .error none else .ok (), w)
  | .serve => ((), w)
  | .awaitStop => w.serve p
  | .cancelWorkers => ((), w.withCrew p.provider Crew.cancel)
  | .awaitServer => ((), w)
  | .awaitPublisher => ((), w)
  | .awaitWorkers grace => ((), w.withCrew p.provider fun crew => crew.join grace)

/-- The levels of the log that a filter lets through. -/
def logged (w : Performance) (filter : Log.Filter) : List Log.Level :=
  w.stage.log.reverse.filter (filter.enables Log.service)

end Performance

/-- The life of the service. -/
def perform (p : Production) : Except Service.Failure Unit × Performance :=
  Service.run.run (Performance.answer p) (Performance.start p)

end Rehearsal

end Courier
