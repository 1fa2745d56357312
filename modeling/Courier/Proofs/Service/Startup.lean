import Courier.Proofs.Path
import Courier.Service

/-!
# The course of the service

The service has a plan from the beginning to the end, which depends only on its configuration and
on the name that the broker reports for the main queue.

* `Service.Step.failed` : whether a step failed.
* `Service.startup`, `Service.shutdown` : the plan.
* `Service.Course` : how far the service can be.
* `Service.course_of_path` : **the service keeps to its plan up to the first step that fails.**
-/

namespace Courier

/-- Whether a result is an error. -/
def failing {ε α : Type} : Except ε α → Bool
  | .error _ => true
  | .ok _ => false

theorem exists_error {ε α : Type} {r : Except ε α} (h : failing r = true) : ∃ e, r = .error e := by
  cases r with
  | error e => exact ⟨e, rfl⟩
  | ok _ => cases h

theorem exists_ok {ε α : Type} {r : Except ε α} (h : failing r = false) : ∃ a, r = .ok a := by
  cases r with
  | error _ => cases h
  | ok a => exact ⟨a, rfl⟩

/-- Whether the broker did not do what it was asked. -/
def Amqp.Ask.refused {χ : Type} : (q : Amqp.Ask χ) → q.Answer → Bool
  | .connect _, answer => failing (answer : Except Reason Unit)
  | .isConnected, _ => false
  | .disconnect _, answer => failing (answer : Except Reason Unit)
  | .openChannel _, answer => failing (answer : Except Reason Unit)
  | .isOpen _, _ => false
  | .call _ m, answer => failing (answer : Except Reason m.Reply)

/-- What prepares a worker. -/
def Worker.preparation (queue : String) (prefetch : UInt16) (id : Nat) :
    List (Amqp.Ask Channel) :=
  [.openChannel (.worker id), .call (.worker id) .confirmSelect,
    .call (.worker id) (.basicQos prefetch), .call (.worker id) (.basicConsume queue (tag id))]

/-- What prepares the publisher. -/
def Publishing.preparation : List (Amqp.Ask Channel) :=
  [.openChannel .publisher, .call .publisher .confirmSelect]

namespace Topology

/-- The declarations of the exchanges. -/
def exchangeMethods (t : Config) : List Amqp.Method :=
  [.exchangeDeclare t.mainExchange, .exchangeDeclare t.deadLetterExchange,
    .exchangeDeclare t.retryExchange]

/-- The declaration of the main queue. -/
def mainQueueMethod (t : Config) : Amqp.Method :=
  .queueDeclare t.mainQueue (mainQueueOptions t) (mainQueueArguments t)

/-- The declarations that follow once the main queue has a name. -/
def otherMethods (t : Config) (queue : String) (retryArguments : Amqp.Table) :
    List Amqp.Method :=
  [.queueBind queue t.mainExchange t.mainRoutingKey,
    .queueDeclare t.deadLetterQueue Amqp.durableQueue .empty,
    .queueBind t.deadLetterQueue t.deadLetterExchange t.deadLetterRoutingKey,
    .queueDeclare t.retryQueue Amqp.durableQueue retryArguments,
    .queueBind t.retryQueue t.retryExchange t.retryRoutingKey]

/-- The nine declarations of a topology. -/
def methods (t : Config) (queue : String) (retryArguments : Amqp.Table) : List Amqp.Method :=
  exchangeMethods t ++ mainQueueMethod t :: otherMethods t queue retryArguments

end Topology

namespace Service

/-- Whether a step failed. -/
def Step.failed : (q : Step) → q.Answer → Bool
  | .loadConfig, answer => failing (answer : Except Config.LoadError Config)
  | .broker question, answer => question.refused answer
  | .findCredentials, answer => failing (answer : Except Reason Unit)
  | .startWorkers _, _ => false
  | .startPublisher _, _ => false
  | .bindPort _, answer => failing (answer : Except Reason Unit)
  | .serve, _ => false
  | .awaitStop, _ => false
  | .cancelWorkers, _ => false
  | .awaitServer, _ => false
  | .awaitPublisher, _ => false
  | .awaitWorkers _, _ => false

/-- The steps of a service with their answers, the oldest first. -/
abbrev Past := List ((q : Step) × q.Answer)

/-! ### The plan -/

/-- The way to the broker. -/
def opening (c : Config) : List Step :=
  [.loadConfig, .broker (.connect c.rabbitmqUrl), .broker (.openChannel .setup)]

/-- What the service does on its setup channel. -/
def onSetup (m : Amqp.Method) : Step := .broker (.call .setup m)

/-- The declarations of the topology. -/
def declarations (c : Config) (queue : String) (retryArguments : Amqp.Table) : List Step :=
  (Topology.methods c.topology queue retryArguments).map onSetup

/-- The preparation of the workers, one after the other. -/
def preparations (c : Config) (queue : String) : List Step :=
  ((List.range c.workers.count.toNat).flatMap (Worker.preparation queue c.workers.prefetch)).map
    .broker

/-- The preparation of the publisher. -/
def publisherPreparation : List Step := Publishing.preparation.map .broker

/-- The steps before the workers start. -/
def groundwork (c : Config) (queue : String) (retryArguments : Amqp.Table) : List Step :=
  opening c ++ (declarations c queue retryArguments ++ .findCredentials :: preparations c queue)

/-- The steps after their start until requests are answered. -/
def admission (c : Config) : List Step :=
  publisherPreparation ++ [.startPublisher c, .bindPort c.serverPort, .serve]

/-- The steps until requests are answered. -/
def startup (c : Config) (queue : String) (retryArguments : Amqp.Table) : List Step :=
  groundwork c queue retryArguments ++ .startWorkers c :: admission c

/-- The steps after that. -/
def shutdown (c : Config) : List Step :=
  [.awaitStop, .cancelWorkers, .awaitServer, .awaitPublisher, .awaitWorkers c.workers.grace,
    .broker .isConnected, .broker (.disconnect Amqp.shuttingDown)]

/-- The name of a queue that the broker reports with the answer to a method. -/
def reportedOf? : (m : Amqp.Method) → Except Reason m.Reply → Option String
  | .queueDeclare .., .ok name => some name
  | _, _ => none

/-- The name of a queue that the broker reports on the setup channel. -/
def reported? : (x : (q : Step) × q.Answer) → Option String
  | ⟨.broker (.call .setup m), answer⟩ => reportedOf? m answer
  | _ => none

/-- The name of the main queue, which is the first one to be declared, as far as it is known. -/
def mainQueue (past : Past) : String := (past.findSome? reported?).getD ""

/-- The configuration, once it is loaded. -/
def loaded? : Past → Option Config
  | ⟨.loadConfig, answer⟩ :: _ => (answer : Except Config.LoadError Config).toOption
  | _ => none

/-- The plan once the configuration is loaded.  A delay of retries that cannot be one ends it before
the first declaration. -/
def planOf (c : Config) (queue : String) : Except TopologyError Amqp.Table → List Step
  | .error _ => opening c
  | .ok retryArguments => startup c queue retryArguments ++ shutdown c

/-- The plan, as far as it is known from what has happened. -/
def plan (past : Past) : List Step :=
  match loaded? past with
  | none => [.loadConfig]
  | some c => planOf c (mainQueue past) (Topology.retryQueueArguments c.topology)

/-! ### Dialogues with the broker -/

section Broker

open Dialogue (Follows)
open Amqp (Ask)

variable {ε α : Type}

/-- A method after whose refusal there is nothing but an error. -/
theorem follows_call {channel : Channel} {m : Amqp.Method} {asks : List (Ask Channel)}
    {next : Except Reason m.Reply → Amqp.Connection Channel (Except ε α)}
    {d : Amqp.Connection Channel (Except ε α)}
    (stops : ∀ reason, ∃ e, next (.error reason) = .done (.error e))
    (goes : ∀ reply, Follows Ask.refused asks (next (.ok reply)) d) :
    Follows Ask.refused (.call channel m :: asks) (.ask (.call channel m) next) d := by
  refine .ask (fun answer h => ?_) fun answer h => ?_
  · obtain ⟨reason, rfl⟩ := exists_error h
    exact stops reason
  · obtain ⟨reply, rfl⟩ := exists_ok h
    exact goes reply

theorem follows_connect (url : String) : Follows Ask.refused [.connect url]
    (Amqp.connect url : Amqp.Connection Channel _) (.done (.ok ())) := by
  refine .ask (fun answer h => ?_) fun answer h => ?_
  · obtain ⟨reason, rfl⟩ := exists_error h
    exact ⟨_, rfl⟩
  · obtain ⟨_, rfl⟩ := exists_ok h
    exact .refl _

theorem follows_openChannel (channel : Channel) :
    Follows Ask.refused [.openChannel channel] (Amqp.openChannel channel) (.done (.ok ())) := by
  refine .ask (fun answer h => ?_) fun answer h => ?_
  · obtain ⟨reason, rfl⟩ := exists_error h
    exact ⟨_, rfl⟩
  · obtain ⟨_, rfl⟩ := exists_ok h
    exact .refl _

theorem follows_openConfirmChannel (channel : Channel) :
    Follows Ask.refused [.openChannel channel, .call channel .confirmSelect]
      (Amqp.openConfirmChannel channel) (.done (.ok ())) :=
  (follows_openChannel channel).andThen (fun e => ⟨e, rfl⟩)
    (follows_call (fun _ => ⟨_, rfl⟩) fun _ => .refl _)

theorem follows_consume (id : Nat) (queue : String) (prefetch : UInt16) :
    Follows Ask.refused [.call (.worker id) (.basicQos prefetch),
        .call (.worker id) (.basicConsume queue (Worker.tag id))]
      (Worker.consume id queue prefetch) (.done (.ok ())) :=
  follows_call (fun _ => ⟨_, rfl⟩) fun _ => follows_call (fun _ => ⟨_, rfl⟩) fun _ => .refl _

/-- A worker is prepared step by step. -/
theorem follows_prepare (id : Nat) (queue : String) (prefetch : UInt16) :
    Follows Ask.refused (Worker.preparation queue prefetch id) (Worker.prepare id queue prefetch)
      (.done (.ok ())) :=
  (follows_openConfirmChannel (.worker id)).andThen (fun e => ⟨e, rfl⟩)
    (follows_consume id queue prefetch)

/-- Some workers are prepared one after the other. -/
theorem follows_prepareFrom (id : Nat) (queue : String) (prefetch : UInt16) (n : Nat) :
    Follows Ask.refused ((List.range' id n).flatMap (Worker.preparation queue prefetch))
      (Worker.prepareFrom id queue prefetch n) (.done (.ok ())) := by
  induction n generalizing id with
  | zero => exact .refl _
  | succ n ih =>
    rw [List.range'_succ, List.flatMap_cons]
    exact (follows_prepare id queue prefetch).andThen (fun e => ⟨e, rfl⟩) (ih (id + 1))

/-- All workers are prepared one after the other. -/
theorem follows_prepareAll (c : Config) (queue : String) :
    Follows Ask.refused
      ((List.range c.workers.count.toNat).flatMap (Worker.preparation queue c.workers.prefetch))
      (Worker.prepareAll c.workers queue) (.done (.ok ())) := by
  rw [List.range_eq_range']
  exact follows_prepareFrom 0 queue c.workers.prefetch c.workers.count.toNat

/-- What the broker does of a plan the service does. -/
theorem follows_withBroker {asks : List (Ask Channel)}
    {d d' : Amqp.Connection Channel (Except ε α)} (h : Follows Ask.refused asks d d') :
    Follows Step.failed (asks.map .broker) (withBroker d) (withBroker d') := by
  induction h with
  | refl d => exact .refl _
  | @ask q next asks d stops _ ih =>
    refine .ask (fun answer ha => ?_) ih
    obtain ⟨e, he⟩ := stops answer ha
    exact ⟨e, congrArg withBroker he⟩

/-! ### The topology -/

open Courier.Topology (Declaration declaring)

variable {asks : List (Ask Channel)} {d : Amqp.Connection Channel (Except TopologyError α)}
  {next : String → Topology.Declaring (Except TopologyError α)} {channel : Channel}

theorem follows_exchange {name : String}
    (h : Follows Ask.refused asks ((next name).expand (Declaration.on channel)) d) :
    Follows Ask.refused (.call channel (.exchangeDeclare name) :: asks)
      ((declaring (.exchange name) next).expand (Declaration.on channel)) d :=
  follows_call (fun _ => ⟨_, rfl⟩) fun _ => h

theorem follows_binding {queue exchange key : String}
    (h : Follows Ask.refused asks ((next queue).expand (Declaration.on channel)) d) :
    Follows Ask.refused (.call channel (.queueBind queue exchange key) :: asks)
      ((declaring (.binding queue exchange key) next).expand (Declaration.on channel)) d :=
  follows_call (fun _ => ⟨_, rfl⟩) fun _ => h

/-- The name of a queue is the one that the broker reports. -/
theorem follows_queue {name : String} {options : Amqp.QueueOptions} {arguments : Amqp.Table}
    (h : ∀ reported, Follows Ask.refused asks ((next reported).expand (Declaration.on channel)) d) :
    Follows Ask.refused (.call channel (.queueDeclare name options arguments) :: asks)
      ((declaring (.queue name options arguments) next).expand (Declaration.on channel)) d :=
  follows_call (fun _ => ⟨_, rfl⟩) h

/-- The declarations that follow once the main queue has a name. -/
def declareOthers (t : Topology.Config) (retryArguments : Amqp.Table) (mainQueue : String) :
    Topology.Declaring (Except TopologyError Topology) :=
  declaring (.binding mainQueue t.mainExchange t.mainRoutingKey) fun _ =>
  declaring (.queue t.deadLetterQueue Amqp.durableQueue .empty) fun _ =>
  declaring (.binding t.deadLetterQueue t.deadLetterExchange t.deadLetterRoutingKey) fun _ =>
  declaring (.queue t.retryQueue Amqp.durableQueue retryArguments) fun _ =>
  declaring (.binding t.retryQueue t.retryExchange t.retryRoutingKey) fun _ =>
  .done (.ok ⟨mainQueue, t.retryDelay⟩)

theorem follows_declareOthers (t : Topology.Config) (retryArguments : Amqp.Table)
    (queue : String) : Follows Ask.refused
      ((Topology.otherMethods t queue retryArguments).map (.call channel))
      ((declareOthers t retryArguments queue).expand (Declaration.on channel))
      (.done (.ok ⟨queue, t.retryDelay⟩)) :=
  follows_binding <| follows_queue fun _ => follows_binding <| follows_queue fun _ =>
    follows_binding <| .refl _

/-- The main queue, and what follows once it has a name. -/
def declareMainQueue (t : Topology.Config) (retryArguments : Amqp.Table) :
    Topology.Declaring (Except TopologyError Topology) :=
  declaring (.queue t.mainQueue (Topology.mainQueueOptions t) (Topology.mainQueueArguments t))
    (declareOthers t retryArguments)

/-- The exchanges are declared before the main queue. -/
theorem follows_declareOn {t : Topology.Config} {retryArguments : Amqp.Table}
    (h : Topology.retryQueueArguments t = .ok retryArguments) : Follows Ask.refused
      ((Topology.exchangeMethods t).map (.call channel)) (Topology.declareOn channel t)
      ((declareMainQueue t retryArguments).expand (Declaration.on channel)) := by
  simp only [Topology.declareOn, Topology.declare, h]
  exact follows_exchange <| follows_exchange <| follows_exchange <| .refl _

/-- A delay that cannot be one is noticed before anything is declared. -/
theorem declareOn_of_error {χ : Type} {channel : χ} {t : Topology.Config} {e : TopologyError}
    (h : Topology.retryQueueArguments t = .error e) :
    Topology.declareOn channel t = .done (.error e) := by
  simp only [Topology.declareOn, Topology.declare, h]
  rfl

end Broker

/-! ### The life of the service in sections -/

section Life

open Dialogue (Follows)

variable {ε α β : Type} {c : Config} {retryArguments : Amqp.Table} {steps steps' : List Step}

/-- A section of the life goes on with what it has brought. -/
theorem follows_attempt {failure : ε → Failure} {d : Life (Except ε α)} {a : α}
    {next : α → Life (Except Failure β)} {d' : Life (Except Failure β)}
    (h : Follows Step.failed steps d (.done (.ok a)))
    (h' : Follows Step.failed steps' (next a) d') :
    Follows Step.failed (steps ++ steps') (attempt failure d next) d' :=
  h.andThen (fun _ => ⟨_, rfl⟩) h'

/-- The life of the service once its topology is declared. -/
def settled (c : Config) (topology : Topology) : Life (Except Failure Unit) :=
  attempt .credentials (.ask .findCredentials .done) fun (_ : Unit) =>
  attempt .workers (withBroker (Worker.prepareAll c.workers topology.mainQueue)) fun _ =>
  serve c

/-- The life of the service once its configuration is loaded. -/
def configured (c : Config) : Life (Except Failure Unit) :=
  attempt .connection (withBroker (Amqp.connect c.rabbitmqUrl)) fun _ =>
  attempt .broker (withBroker (Amqp.openChannel .setup)) fun _ =>
  attempt .topology (withBroker (Topology.declareOn .setup c.topology)) (settled c)

theorem run_eq : run = .ask .loadConfig fun
    | .error e => .done (.error (.config e))
    | .ok c => configured c := by
  refine congrArg (Dialogue.ask Step.loadConfig) (funext fun answer => ?_)
  cases (answer : Except Config.LoadError Config) <;> rfl

/-- The service connects and opens a channel. -/
theorem follows_configured (c : Config) : Follows Step.failed (opening c).tail (configured c)
    (attempt .topology (withBroker (Topology.declareOn .setup c.topology)) (settled c)) :=
  follows_attempt (follows_withBroker (follows_connect c.rabbitmqUrl))
    (follows_attempt (follows_withBroker (follows_openChannel .setup)) (.refl _))

/-- The service starts its workers and opens the interface. -/
theorem follows_serve (c : Config) : Follows Step.failed (.startWorkers c :: admission c) (serve c)
    (.ask .awaitStop (windDown c)) := by
  refine .ask nofun fun _ _ => ?_
  refine follows_attempt (follows_withBroker (follows_openConfirmChannel .publisher)) ?_
  refine .ask nofun fun _ _ => .ask (fun answer h => ?_) fun answer h => ?_
  · obtain ⟨reason, rfl⟩ := exists_error h
    exact ⟨_, rfl⟩
  · obtain ⟨_, rfl⟩ := exists_ok h
    exact .ask nofun fun _ _ => .refl _

/-- The service finds its credentials, prepares its workers and starts them. -/
theorem follows_settled (c : Config) (topology : Topology) : Follows Step.failed
    (.findCredentials :: (preparations c topology.mainQueue ++ .startWorkers c :: admission c))
    (settled c topology) (.ask .awaitStop (windDown c)) := by
  refine .ask (fun answer h => ?_) fun answer h => ?_
  · obtain ⟨reason, rfl⟩ := exists_error h
    exact ⟨_, rfl⟩
  · obtain ⟨_, rfl⟩ := exists_ok h
    change Follows _ _ (attempt .workers (withBroker (Worker.prepareAll c.workers
      topology.mainQueue)) fun _ => serve c) _
    exact follows_attempt (follows_withBroker (follows_prepareAll c topology.mainQueue))
      (follows_serve c)

theorem map_broker_call (ms : List Amqp.Method) :
    (ms.map (.call .setup)).map Step.broker = ms.map onSetup := List.map_map

/-- The life of the service up to the declaration of its main queue. -/
theorem follows_toMainQueue (h : Topology.retryQueueArguments c.topology = .ok retryArguments) :
    Follows Step.failed ((opening c).tail ++ (Topology.exchangeMethods c.topology).map onSetup)
      (configured c)
      (attempt .topology (withBroker ((declareMainQueue c.topology retryArguments).expand
        (Topology.Declaration.on .setup))) (settled c)) := by
  rw [← map_broker_call]
  exact (follows_configured c).trans
    ((follows_withBroker (follows_declareOn h)).bind fun _ => ⟨_, rfl⟩)

/-- The life of the service once its main queue has a name. -/
theorem follows_fromMainQueue (queue : String) : Follows Step.failed
    ((Topology.otherMethods c.topology queue retryArguments).map onSetup ++ .findCredentials ::
      (preparations c queue ++ .startWorkers c :: admission c))
    (attempt .topology (withBroker ((declareOthers c.topology retryArguments queue).expand
      (Topology.Declaration.on .setup))) (settled c))
    (.ask .awaitStop (windDown c)) := by
  rw [← map_broker_call]
  exact follows_attempt
    (follows_withBroker (follows_declareOthers c.topology retryArguments queue))
    (follows_settled c ⟨queue, c.topology.retryDelay⟩)

end Life

/-! ### The course -/

section Course

open Dialogue (Path Smooth Under)

variable {c : Config} {retryArguments : Amqp.Table} {past tail : Past}
  {rest : Life (Except Failure Unit)}

/-- The steps of the end that are taken whatever happens. -/
def farewell (c : Config) : List Step :=
  [.awaitStop, .cancelWorkers, .awaitServer, .awaitPublisher, .awaitWorkers c.workers.grace]

/-- How far the service can be in its plan. -/
inductive Course (past : Past) : Life (Except Failure Unit) → Prop where
  | under {rest : Life (Except Failure Unit)} (under : Under Step.failed (plan past) past rest) :
    Course past rest
  /-- The delay of retries is none, which is noticed before anything is declared. -/
  | misfit (c : Config) (e : TopologyError) (loaded : loaded? past = some c)
      (refused : Topology.retryQueueArguments c.topology = .error e)
      (opened : past.map Sigma.fst = opening c) (smooth : Smooth Step.failed past) :
    Course past (.done (.error (.topology e)))
  /-- It has wound itself down. -/
  | ended (c : Config) (retryArguments : Amqp.Table) (result : Except Failure Unit)
      (loaded : loaded? past = some c)
      (accepted : Topology.retryQueueArguments c.topology = .ok retryArguments)
      (planned : past.map Sigma.fst <+: plan past)
      (complete : startup c (mainQueue past) retryArguments ++ farewell c <+: past.map Sigma.fst)
      (smooth : Smooth Step.failed past) : Course past (.done result)

/-- The service ends its connection if that is still there. -/
theorem path_disconnect {l : Past} {result : Except Failure Unit}
    (h : Path (attempt .broker (withBroker Amqp.disconnect) fun _ => .done result) l rest) :
    Under Step.failed [.broker .isConnected, .broker (.disconnect Amqp.shuttingDown)] l rest ∨
      ∃ result, rest = .done result ∧ Smooth Step.failed l ∧
        l.map Sigma.fst <+: [.broker .isConnected, .broker (.disconnect Amqp.shuttingDown)] := by
  rcases h.of_ask with ⟨rfl, rfl⟩ | ⟨connected, l, rfl, hleft⟩
  · exact .inl (.asks (List.prefix_append [_] _) .nil)
  cases (connected : Bool) with
  | false =>
    obtain ⟨rfl, rfl⟩ := hleft.of_done
    exact .inr ⟨_, rfl, .single rfl, List.prefix_append [_] _⟩
  | true =>
    have hsmooth : Smooth Step.failed [⟨.broker .isConnected, true⟩] := .single rfl
    rcases hleft.of_ask with ⟨rfl, rfl⟩ | ⟨answer, l, rfl, hend⟩
    · exact .inl (.asks (List.prefix_refl _) hsmooth)
    cases (answer : Except Reason Unit) with
    | error reason =>
      obtain ⟨rfl, rfl⟩ := hend.of_done
      have hfails (e : Failure) : Under Step.failed
          [.broker .isConnected, .broker (.disconnect Amqp.shuttingDown)]
          ([⟨.broker .isConnected, true⟩] ++
            [⟨.broker (.disconnect Amqp.shuttingDown), .error reason⟩])
          (.done (.error e) : Life (Except Failure Unit)) :=
        .fails e (List.prefix_refl _) hsmooth rfl
      exact .inl (hfails _)
    | ok _ =>
      obtain ⟨rfl, rfl⟩ := hend.of_done
      exact .inr ⟨_, rfl, hsmooth.append (.single rfl), List.prefix_refl _⟩

/-- The end of the service goes by its plan, too. -/
theorem path_windDown {l : Past} (h : Path (.ask .awaitStop (windDown c)) l rest) :
    Under Step.failed (shutdown c) l rest ∨ ∃ result, rest = .done result ∧
      Smooth Step.failed l ∧ l.map Sigma.fst <+: shutdown c ∧ farewell c <+: l.map Sigma.fst := by
  rcases h.of_ask with ⟨rfl, rfl⟩ | ⟨cause, l, rfl, hdown⟩
  · exact .inl (.asks (List.prefix_append [_] _) .nil)
  have hfirst : Smooth Step.failed [⟨.awaitStop, cause⟩] := .single rfl
  have hfollows : Dialogue.Follows Step.failed (farewell c).tail (windDown c cause) _ :=
    .ask nofun fun _ _ => .ask nofun fun _ _ => .ask nofun fun _ _ => .ask nofun fun _ _ => .refl _
  rcases hdown.of_follows hfollows with hunder | ⟨l₁, l₂, rfl, hl₁, hsmooth, hend⟩
  · have hle : [Step.awaitStop] ++ (farewell c).tail <+: shutdown c :=
      List.prefix_append (farewell c) _
    have hafter : Under Step.failed ([.awaitStop] ++ (farewell c).tail)
        ([⟨.awaitStop, cause⟩] ++ l) rest := hunder.after rfl hfirst
    exact .inl (hafter.mono hle)
  · have hfarewell : (⟨.awaitStop, cause⟩ :: l₁ : Past).map Sigma.fst = farewell c :=
      congrArg (Step.awaitStop :: ·) hl₁
    rcases path_disconnect hend with hunder | ⟨result, rfl, hl₂, hplanned⟩
    · exact .inl (hunder.after hfarewell (hfirst.append hsmooth))
    · refine .inr ⟨result, rfl, (hfirst.append hsmooth).append hl₂, ?_⟩
      have hsteps : (⟨.awaitStop, cause⟩ :: (l₁ ++ l₂) : Past).map Sigma.fst =
          farewell c ++ l₂.map Sigma.fst := by
        rw [← hfarewell, ← List.cons_append, List.map_append]
      rw [hsteps]
      exact ⟨(List.prefix_append_right_inj _).2 hplanned, List.prefix_append _ _⟩

/-- The steps before the declaration of the main queue. -/
def foundations (c : Config) : List Step :=
  opening c ++ (Topology.exchangeMethods c.topology).map onSetup

/-- No name is reported before the main queue is declared. -/
theorem reported?_foundations {x : (q : Step) × q.Answer} (h : x.1 ∈ foundations c) :
    reported? x = none := by
  obtain ⟨q, answer⟩ := x
  simp only [foundations, opening, Topology.exchangeMethods, List.map_cons, List.map_nil,
    List.cons_append, List.nil_append, List.mem_cons, List.not_mem_nil, or_false] at h
  rcases h with rfl | rfl | rfl | rfl | rfl | rfl <;> rfl

/-- The main queue is called as the broker says when it is declared. -/
theorem mainQueue_eq {l : Past} (h : l.map Sigma.fst = foundations c) (queue : String)
    (l' : Past) :
    mainQueue (l ++ ⟨onSetup (Topology.mainQueueMethod c.topology), .ok queue⟩ :: l') = queue := by
  have hnone : l.findSome? reported? = none := List.findSome?_eq_none_iff.2 fun x hx =>
    reported?_foundations (h ▸ List.mem_map_of_mem hx)
  rw [mainQueue, List.findSome?_append, hnone]
  rfl

theorem plan_of_loaded (hloaded : loaded? past = some c)
    (h : Topology.retryQueueArguments c.topology = .ok retryArguments) :
    plan past = startup c (mainQueue past) retryArguments ++ shutdown c := by
  rw [plan, hloaded]
  exact congrArg (planOf c (mainQueue past)) h

theorem plan_of_misfit {e : TopologyError} (hloaded : loaded? past = some c)
    (h : Topology.retryQueueArguments c.topology = .error e) : plan past = opening c := by
  rw [plan, hloaded]
  exact congrArg (planOf c (mainQueue past)) h

/-- The course of a service whose delay of retries is none. -/
theorem course_of_misfit {e : TopologyError}
    (h : Topology.retryQueueArguments c.topology = .error e)
    (hpath : Path (configured c) tail rest) : Course (⟨.loadConfig, .ok c⟩ :: tail) rest := by
  have hloaded : loaded? (⟨.loadConfig, .ok c⟩ :: tail) = some c := rfl
  have hplan : plan (⟨.loadConfig, .ok c⟩ :: tail) = [.loadConfig] ++ (opening c).tail :=
    plan_of_misfit hloaded h
  have hfirst : Smooth Step.failed [⟨.loadConfig, .ok c⟩] := .single rfl
  have hfollows := follows_configured c
  rw [declareOn_of_error h] at hfollows
  rcases hpath.of_follows hfollows with hunder | ⟨l₁, l₂, rfl, hl₁, hsmooth, hend⟩
  · refine .under ?_
    rw [hplan]
    exact hunder.after rfl hfirst
  · obtain ⟨rfl, rfl⟩ := hend.of_done
    rw [List.append_nil] at hloaded ⊢
    exact .misfit c e hloaded h (congrArg (Step.loadConfig :: ·) hl₁) (hfirst.append hsmooth)

/-- The startup, from the moment that the main queue has a name. -/
theorem startup_eq (c : Config) (queue : String) (retryArguments : Amqp.Table) :
    startup c queue retryArguments =
      (foundations c ++ [onSetup (Topology.mainQueueMethod c.topology)]) ++
        ((Topology.otherMethods c.topology queue retryArguments).map onSetup ++ .findCredentials ::
          (preparations c queue ++ .startWorkers c :: admission c)) := by
  simp [startup, groundwork, foundations, declarations, Topology.methods]

variable {l : Past}

/-- The course of a service from the moment that its main queue has a name. -/
theorem course_of_named {queue : String}
    (h : Topology.retryQueueArguments c.topology = .ok retryArguments)
    (hloaded : loaded? (l ++ tail) = some c) (hqueue : mainQueue (l ++ tail) = queue)
    (hl : l.map Sigma.fst = foundations c ++ [onSetup (Topology.mainQueueMethod c.topology)])
    (hsmooth : Smooth Step.failed l)
    (hpath : Path (attempt .topology (withBroker ((declareOthers c.topology retryArguments
      queue).expand (Topology.Declaration.on .setup))) (settled c)) tail rest) :
    Course (l ++ tail) rest := by
  have hplan := plan_of_loaded hloaded h
  rw [hqueue] at hplan
  rcases hpath.of_follows (follows_fromMainQueue queue) with
    hunder | ⟨l₁, l₂, rfl, hl₁, hsmooth₁, hend⟩
  · have hafter := hunder.after hl hsmooth
    rw [← startup_eq] at hafter
    refine .under ?_
    rw [hplan]
    exact hafter.mono (List.prefix_append _ _)
  · have hstartup : (l ++ l₁).map Sigma.fst = startup c queue retryArguments := by
      rw [List.map_append, hl, hl₁, startup_eq]
    rw [← List.append_assoc] at hloaded hqueue hplan ⊢
    rcases path_windDown hend with hunder | ⟨result, rfl, hl₂, hplanned, hcomplete⟩
    · refine .under ?_
      rw [hplan]
      exact hunder.after hstartup (hsmooth.append hsmooth₁)
    · refine .ended c retryArguments result hloaded h ?_ ?_ ((hsmooth.append hsmooth₁).append hl₂)
      · rw [hplan, List.map_append, hstartup]
        exact (List.prefix_append_right_inj _).2 hplanned
      · rw [hqueue, List.map_append, hstartup]
        exact (List.prefix_append_right_inj _).2 hcomplete

/-- The course of a service that has declared its exchanges. -/
theorem course_of_founded (h : Topology.retryQueueArguments c.topology = .ok retryArguments)
    (hloaded : loaded? (l ++ tail) = some c) (hl : l.map Sigma.fst = foundations c)
    (hsmooth : Smooth Step.failed l)
    (hpath : Path (attempt .topology (withBroker ((declareMainQueue c.topology
      retryArguments).expand (Topology.Declaration.on .setup))) (settled c)) tail rest) :
    Course (l ++ tail) rest := by
  have hplan := plan_of_loaded hloaded h
  have hnext : foundations c ++ [onSetup (Topology.mainQueueMethod c.topology)] <+:
      plan (l ++ tail) := by
    rw [hplan, startup_eq, List.append_assoc]
    exact List.prefix_append _ _
  rw [← hl] at hnext
  rcases hpath.of_ask with ⟨rfl, rfl⟩ | ⟨answer, tail, rfl, hrest⟩
  · rw [List.append_nil] at hnext ⊢
    exact .under (.asks hnext hsmooth)
  cases (answer : Except Reason String) with
  | error reason =>
    obtain ⟨rfl, rfl⟩ := hrest.of_done
    exact .under (.fails _ hnext hsmooth rfl)
  | ok queue =>
    have hqueue := mainQueue_eq hl queue tail
    rw [List.append_cons] at hloaded hqueue ⊢
    refine course_of_named h hloaded hqueue ?_ (hsmooth.append (.single rfl))
      hrest
    rw [List.map_append, hl]
    rfl

/-- The course of a service whose delay of retries can be one. -/
theorem course_of_configured (h : Topology.retryQueueArguments c.topology = .ok retryArguments)
    (hpath : Path (configured c) tail rest) : Course (⟨.loadConfig, .ok c⟩ :: tail) rest := by
  have hplan : plan (⟨.loadConfig, .ok c⟩ :: tail) = _ := plan_of_loaded rfl h
  have hfirst : Smooth Step.failed [⟨.loadConfig, .ok c⟩] := .single rfl
  rcases hpath.of_follows (follows_toMainQueue h) with hunder | ⟨l₁, l₂, rfl, hl₁, hsmooth, hrest⟩
  · have hafter : Under Step.failed ([.loadConfig] ++ _) ([⟨.loadConfig, .ok c⟩] ++ tail) rest :=
      hunder.after rfl hfirst
    refine .under ?_
    rw [hplan, startup_eq, List.append_assoc, List.append_assoc]
    exact hafter.mono (List.prefix_append (foundations c) _)
  · have hl : (⟨.loadConfig, .ok c⟩ :: l₁ : Past).map Sigma.fst = foundations c :=
      congrArg (Step.loadConfig :: ·) hl₁
    exact course_of_founded h rfl hl (hfirst.append hsmooth) hrest

/-- **The service keeps to its plan up to the first step that fails.** -/
theorem course_of_path (h : Path run past rest) : Course past rest := by
  rw [run_eq] at h
  rcases h.of_ask with ⟨rfl, rfl⟩ | ⟨answer, tail, rfl, hrest⟩
  · exact .under (.asks (List.prefix_refl _) .nil)
  cases (answer : Except Config.LoadError Config) with
  | error e =>
    obtain ⟨rfl, rfl⟩ := hrest.of_done
    have hfails : Under Step.failed [.loadConfig] ([] ++ [⟨.loadConfig, .error e⟩])
        (.done (.error (.config e)) : Life (Except Failure Unit)) :=
      .fails _ (List.prefix_refl _) .nil rfl
    exact .under hfails
  | ok c =>
    cases hc : Topology.retryQueueArguments c.topology with
    | error e => exact course_of_misfit hc hrest
    | ok retryArguments => exact course_of_configured hc hrest

end Course

end Service

end Courier
