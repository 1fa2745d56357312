import Courier.Config.Environment
import Courier.Provider.Client
import Courier.Worker.Consumer

/-!
# The life of the service

The service sets itself up step by step, serves until it is told to stop or loses a worker, and
then ends what it has started.  The first step of the setting up that fails is the last one.

Two allocations have no step: the list of the workers, before the first of them is prepared, and the
queue of the publisher, when that starts.  Both can be too large to be made, which ends the program
on the spot, whatever it has started.

## Main definitions

* `Service.Step`: what the service does.
* `Service.Failure`: why it ends with an error.
* `Service.run`: its life.
-/

namespace Courier

namespace Service

/-- Why the service stops serving. -/
inductive Cause where
  /-- It was told to. -/
  | signal
  /-- The token of the workers was cancelled by one of them. -/
  | workersFailed
  deriving DecidableEq, Repr

/-- What the service does. -/
inductive Step where
  /-- The configuration is loaded. -/
  | loadConfig
  /-- The broker is asked something. -/
  | broker (question : Amqp.Ask Channel)
  /-- The credentials for the push provider are looked up. -/
  | findCredentials
  /-- The prepared workers start. -/
  | startWorkers (c : Config)
  | startPublisher (c : Config)
  /-- The port of the interface is bound. -/
  | bindPort (port : UInt16)
  /-- Requests are answered from now on. -/
  | serve
  /-- The service waits for a reason to stop. -/
  | awaitStop
  /-- The token of the workers is cancelled. -/
  | cancelWorkers
  /-- The service waits for the end of the requests. -/
  | awaitServer
  /-- The service waits for the end of the publisher. -/
  | awaitPublisher
  /-- The service waits for the end of the workers, but no longer than it has patience. -/
  | awaitWorkers (grace : Duration)

/-- What a step brings. -/
def Step.Answer : Step → Type
  | .loadConfig => Except Config.LoadError Config
  | .broker question => question.Answer
  | .findCredentials => Except Reason Unit
  | .startWorkers _ => Unit
  | .startPublisher _ => Unit
  | .bindPort _ => Except Reason Unit
  | .serve => Unit
  | .awaitStop => Cause
  | .cancelWorkers => Unit
  | .awaitServer => Unit
  | .awaitPublisher => Unit
  | .awaitWorkers _ => Unit

/-- Why the service ends with an error. -/
inductive Failure where
  | config (e : Config.LoadError)
  | connection (e : BrokerError)
  | topology (e : TopologyError)
  | credentials (reason : Reason)
  | workers (e : BrokerError)
  | port (number : UInt16) (reason : Reason)
  /-- The broker failed at something that has no name of its own. -/
  | broker (e : BrokerError)
  /-- A worker stopped the others. -/
  | workersStopped
  deriving DecidableEq, Repr

/-- The failure in words, and the one that caused it. -/
def Failure.words : Failure → Reason × Option Reason
  | .config e => (some e.message, none)
  | .connection e => (some "Failed to connect to RabbitMQ", some e.message?)
  | .topology e => (some "Failed to declare broker topology", some e.message?)
  | .credentials reason => (some "Failed to load FCM credentials", some reason)
  | .workers e => (some "Failed to start workers", some e.message?)
  | .port number reason =>
    (some ("Failed to bind port " ++ Decimal.text number.toNat), some reason)
  | .broker e => (e.message?, none)
  | .workersStopped => (some "Worker pool stopped unexpectedly", none)

/-- What is reported of a failure, with `unknown` for words that are not known. -/
def Failure.report (unknown : String) (f : Failure) : String :=
  let (head, cause) := f.words
  (head.elim unknown ("Error: " ++ ·)) ++
    cause.elim "" fun reason => "\n\nCaused by:\n    " ++ reason.getD unknown

/-- The life of the service, up to a failure. -/
abbrev Life := Dialogue Step Step.Answer

/-- A dialogue with the broker as a part of the life of the service. -/
def withBroker {α : Type} (d : Amqp.Connection Channel α) : Life α :=
  d.expand fun question => .ask (.broker question) .done

/-- Goes on if something succeeded, and ends with a failure if it did not. -/
def attempt {ε α β : Type} (failure : ε → Failure) (d : Life (Except ε α))
    (next : α → Life (Except Failure β)) : Life (Except Failure β) :=
  d.bind fun
    | .error e => .done (.error (failure e))
    | .ok a => next a

/-- The end of the service: the workers are told to stop, and everything is waited for. -/
def windDown (c : Config) (cause : Cause) : Life (Except Failure Unit) :=
  .ask .cancelWorkers fun _ =>
  .ask .awaitServer fun _ =>
  .ask .awaitPublisher fun _ =>
  .ask (.awaitWorkers c.workers.grace) fun _ =>
  attempt .broker (withBroker Amqp.disconnect) fun _ =>
  .done (match cause with
    | .signal => .ok ()
    | .workersFailed => .error .workersStopped)

/-- The service once its workers are prepared. -/
def serve (c : Config) : Life (Except Failure Unit) :=
  .ask (.startWorkers c) fun _ =>
  attempt .broker (withBroker (Amqp.openConfirmChannel .publisher)) fun _ =>
  .ask (.startPublisher c) fun _ =>
  attempt (.port c.serverPort) (.ask (.bindPort c.serverPort) .done) fun (_ : Unit) =>
  .ask .serve fun _ =>
  .ask .awaitStop (windDown c)

/-- The life of the service. -/
def run : Life (Except Failure Unit) :=
  attempt .config (.ask .loadConfig .done) fun (c : Config) =>
  attempt .connection (withBroker (Amqp.connect c.rabbitmqUrl)) fun _ =>
  attempt .broker (withBroker (Amqp.openChannel .setup)) fun _ =>
  attempt .topology (withBroker (Topology.declareOn .setup c.topology)) fun topology =>
  attempt .credentials (.ask .findCredentials .done) fun (_ : Unit) =>
  attempt .workers (withBroker (Worker.prepareAll c.workers topology.mainQueue)) fun _ =>
  serve c

end Service

end Courier
