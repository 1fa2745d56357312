import Courier.Config.Field
import Courier.Proofs.Lists
import Courier.Proofs.Topology.Routing

/-!
# The loop of retries

Whoever declares the topology does not know what the broker holds already.  But a broker does not
declare one queue in two ways, so that three declarations of queues that are all accepted make three
queues, whatever their names are; and each exchange leads to the one queue that is bound to it.

* `Topology.View` : what is seen of a broker.
* `Topology.Lawful` : a broker that declares as the protocol says.
* `Topology.Added` : what some declarations have added.
* `Topology.added_of_declared` : a topology that could be declared is there.
* `Config.closed_of_declared` : **the declared topology closes the loop of retries.**
-/

namespace Courier

namespace Topology

/-- What is seen of a broker whose states are `σ`. -/
structure View (σ : Type) where
  /-- The options and the arguments of a queue. -/
  queue? : σ → String → Option (Amqp.QueueOptions × Amqp.Table)
  /-- Whether an exchange leads messages with a key to a queue. -/
  Leads : σ → (exchange routingKey queue : String) → Prop

variable {σ : Type} {v : View σ} {s s' : σ}

/-- What the declaration of a queue does that is answered with a name. -/
structure Declared (v : View σ) (name : String) (options : Amqp.QueueOptions)
    (arguments : Amqp.Table) (reported : String) (s s' : σ) : Prop where
  /-- A queue keeps its name. -/
  named : name ≠ "" → reported = name
  /-- A queue without a name gets one that was not used. -/
  fresh : name = "" → reported ≠ "" ∧ v.queue? s reported = none
  /-- A queue that exists already was declared in the same way. -/
  agrees : ∀ q, v.queue? s reported = some q → q = (options, arguments)
  /-- There is this queue then, and the others stay as they are. -/
  queues : ∀ name', v.queue? s' name' =
    if name' = reported then some (options, arguments) else v.queue? s name'
  /-- No exchange that has a name leads anywhere else than before. -/
  leads : ∀ exchange key q, exchange ≠ "" →
    (v.Leads s' exchange key q ↔ v.Leads s exchange key q)

/-- A broker that declares as the protocol says, or refuses. -/
structure Lawful (v : View σ) (answer : (d : Declaration) → σ → Answer d × σ) : Prop where
  /-- A new exchange leads nowhere. -/
  exchange : ∀ {name reply s s'}, answer (.exchange name) s = (.ok reply, s') →
    v.queue? s' = v.queue? s ∧ v.Leads s' = v.Leads s
  queue : ∀ {name options arguments reported s s'},
    answer (.queue name options arguments) s = (.ok reported, s') →
    Declared v name options arguments reported s s'
  /-- A binding leads messages with its very key to its queue. -/
  binding : ∀ {queue exchange routingKey reply s s'},
    answer (.binding queue exchange routingKey) s = (.ok reply, s') →
    v.queue? s' = v.queue? s ∧ ∀ e key q, v.Leads s' e key q ↔
      v.Leads s e key q ∨ (e = exchange ∧ key = routingKey ∧ q = queue)

/-! ### What there is after some declarations -/

/-- What was added to a broker: queues, and routes of an exchange and a key to a queue. -/
structure Added (v : View σ) (queues : List (String × Amqp.QueueOptions × Amqp.Table))
    (routes : List (String × String × String)) (s s' : σ) : Prop where
  present : ∀ q ∈ queues, v.queue? s' q.1 = some q.2
  distinct : (queues.map Prod.fst).Nodup
  leads : ∀ exchange key q, exchange ≠ "" →
    (v.Leads s' exchange key q ↔ v.Leads s exchange key q ∨ (exchange, key, q) ∈ routes)

variable {answer : (d : Declaration) → σ → Answer d × σ} {s₀ : σ}
  {queues : List (String × Amqp.QueueOptions × Amqp.Table)}
  {routes : List (String × String × String)} {arguments : Amqp.Table}

namespace Added

theorem nothing (v : View σ) (s : σ) : Added v [] [] s s where
  present := nofun
  distinct := .nil
  leads _ _ _ _ := by simp

theorem exchange {name reply : String} (ha : Added v queues routes s₀ s) (hl : Lawful v answer)
    (h : answer (.exchange name) s = (.ok reply, s')) : Added v queues routes s₀ s' := by
  obtain ⟨hqueues, hleads⟩ := hl.exchange h
  refine ⟨?_, ha.distinct, ?_⟩
  · rw [hqueues]
    exact ha.present
  · rw [hleads]
    exact ha.leads

/-- A queue that is declared like none of the others is none of them. -/
theorem queue {name reported : String} {options : Amqp.QueueOptions}
    (ha : Added v queues routes s₀ s) (hl : Lawful v answer)
    (h : answer (.queue name options arguments) s = (.ok reported, s'))
    (hdiffers : ∀ q ∈ queues, q.2.2 ≠ arguments) :
    Added v ((reported, options, arguments) :: queues) routes s₀ s' := by
  have hdeclared := hl.queue h
  -- a queue of that name would have to agree with this declaration
  have hne : ∀ q ∈ queues, q.1 ≠ reported := by
    intro q hq heq
    have hagrees := hdeclared.agrees q.2 (heq ▸ ha.present q hq)
    exact hdiffers q hq (congrArg Prod.snd hagrees)
  refine ⟨?_, ?_, ?_⟩
  · intro q hq
    rw [hdeclared.queues]
    rcases List.mem_cons.1 hq with rfl | hq
    · exact if_pos rfl
    · rw [if_neg (hne q hq)]
      exact ha.present q hq
  · refine List.nodup_cons.2 ⟨fun hmem => ?_, ha.distinct⟩
    obtain ⟨q, hq, heq⟩ := List.mem_map.1 hmem
    exact hne q hq heq
  · intro exchange key q hnamed
    rw [hdeclared.leads exchange key q hnamed]
    exact ha.leads exchange key q hnamed

theorem binding {name exchange routingKey reply : String} (ha : Added v queues routes s₀ s)
    (hl : Lawful v answer) (h : answer (.binding name exchange routingKey) s = (.ok reply, s')) :
    Added v queues ((exchange, routingKey, name) :: routes) s₀ s' := by
  obtain ⟨hqueues, hleads⟩ := hl.binding h
  refine ⟨?_, ha.distinct, ?_⟩
  · rw [hqueues]
    exact ha.present
  · intro e key q hnamed
    rw [hleads, ha.leads e key q hnamed, List.mem_cons, or_assoc, Prod.mk.injEq, Prod.mk.injEq,
      or_comm (a := (e, key, q) ∈ routes)]

end Added

/-! ### The declarations of a topology -/

variable {c : Config} {t : Topology}

theorem run_declaring {α : Type} {d : Declaration} {a : α}
    {next : String → Declaring (Except TopologyError α)}
    (h : (declaring d next).run answer s = (.ok a, s')) :
    ∃ name s₁, answer d s = (.ok name, s₁) ∧ (next name).run answer s₁ = (.ok a, s') := by
  rw [declaring, Dialogue.run_ask] at h
  cases hanswer : answer d s with
  | mk reply s₁ =>
    rw [hanswer] at h
    cases reply with
    | ok name => exact ⟨name, s₁, rfl, h⟩
    | error reason => cases h

/-- The queues of a topology. -/
def queuesDeclared (c : Config) (arguments : Amqp.Table) (mainQueue : String) :
    List (String × Amqp.QueueOptions × Amqp.Table) :=
  [(c.retryQueue, Amqp.durableQueue, arguments), (c.deadLetterQueue, Amqp.durableQueue, .empty),
    (mainQueue, mainQueueOptions c, mainQueueArguments c)]

/-- The routes of a topology. -/
def routesDeclared (c : Config) (mainQueue : String) : List (String × String × String) :=
  [(c.retryExchange, c.retryRoutingKey, c.retryQueue),
    (c.deadLetterExchange, c.deadLetterRoutingKey, c.deadLetterQueue),
    (c.mainExchange, c.mainRoutingKey, mainQueue)]

/-- A topology that could be declared is there. -/
theorem added_of_declared (hl : Lawful v answer) (hdead : c.deadLetterQueue ≠ "")
    (hretry : c.retryQueue ≠ "") (h : (declare c).run answer s = (.ok t, s')) :
    ∃ arguments, retryQueueArguments c = .ok arguments ∧
      Added v (queuesDeclared c arguments t.mainQueue) (routesDeclared c t.mainQueue) s s' := by
  unfold declare at h
  cases harguments : retryQueueArguments c with
  | error e => rw [harguments] at h; cases h
  | ok arguments =>
    rw [harguments] at h
    obtain ⟨hmain, hempty⟩ : (mainQueueArguments c ≠ .empty ∧ mainQueueArguments c ≠ arguments) ∧
        Keyed.empty ≠ arguments := by
      simpa using arguments_nodup harguments
    obtain ⟨_, s₁, h₁, h⟩ := run_declaring h
    obtain ⟨_, s₂, h₂, h⟩ := run_declaring h
    obtain ⟨_, s₃, h₃, h⟩ := run_declaring h
    have exchanges := (((Added.nothing v s).exchange hl h₁).exchange hl h₂).exchange hl h₃
    obtain ⟨mainQueue, s₄, h₄, h⟩ := run_declaring h
    obtain ⟨_, s₅, h₅, h⟩ := run_declaring h
    have main := (exchanges.queue hl h₄ nofun).binding hl h₅
    obtain ⟨_, s₆, h₆, h⟩ := run_declaring h
    obtain ⟨_, s₇, h₇, h⟩ := run_declaring h
    -- the two queues with a name of their own keep it
    cases (hl.queue h₆).named hdead
    have dead := (main.queue hl h₆ (by simpa using hmain.1)).binding hl h₇
    obtain ⟨_, s₈, h₈, h⟩ := run_declaring h
    obtain ⟨_, s₉, h₉, h⟩ := run_declaring h
    cases (hl.queue h₈).named hretry
    have retry := (dead.queue hl h₈ (by simpa using ⟨hempty, hmain.2⟩)).binding hl h₉
    cases h
    exact ⟨arguments, rfl, retry⟩

/-! ### Where messages go from a queue -/

/-- Where a message goes that leaves a queue with some arguments unconsumed: to the exchange that
they name, under its own key unless they name one. -/
def deadLetterTarget? (arguments : Amqp.Table) (key : String) : Option (String × String) :=
  match arguments.get? deadLetterExchangeArgument with
  | some (.string exchange) =>
    match arguments.get? deadLetterRoutingKeyArgument with
    | some (.string routingKey) => some (exchange, routingKey)
    | _ => some (exchange, key)
  | _ => none

/-- How many milliseconds a message may stay in a queue with some arguments. -/
def stay? (arguments : Amqp.Table) : Option Int :=
  (arguments.get? messageTtlArgument).bind Amqp.Value.integer?

/-- Whether a message with a key that leaves a queue unconsumed goes to another queue. -/
def View.Drops (v : View σ) (s : σ) (queue key q : String) : Prop :=
  ∃ options arguments exchange routingKey, v.queue? s queue = some (options, arguments) ∧
    deadLetterTarget? arguments key = some (exchange, routingKey) ∧
    v.Leads s exchange routingKey q

theorem deadLetterTarget?_of_route {route : String × String}
    (h : deadLetterRoute? arguments = some route) (key : String) :
    deadLetterTarget? arguments key = some route := by
  unfold deadLetterRoute? at h
  split at h
  · next hexchange hkey =>
    simp only [deadLetterTarget?, hexchange, hkey]
    exact h
  · cases h

theorem drops_iff {queue exchange routingKey : String} {options : Amqp.QueueOptions}
    (hqueue : v.queue? s queue = some (options, arguments))
    (hroute : deadLetterRoute? arguments = some (exchange, routingKey)) (key q : String) :
    v.Drops s queue key q ↔ v.Leads s exchange routingKey q := by
  have htarget := deadLetterTarget?_of_route hroute key
  constructor
  · rintro ⟨_, _, _, _, hqueue', htarget', hleads⟩
    cases hqueue.symm.trans hqueue'
    cases htarget.symm.trans htarget'
    exact hleads
  · intro hleads
    exact ⟨_, _, _, _, hqueue, htarget, hleads⟩

theorem toInt_timeToLive {delay : Duration} {ttl : Int64} (h : timeToLive delay = .ok ttl) :
    ttl.toInt = delay.millis := by
  unfold timeToLive at h
  split at h
  · cases h
  · next hfits =>
    split at h
    · cases h
    · cases h
      exact Int64.toInt_ofNat_of_lt (Nat.not_le.1 hfits)

/-- A message stays in the retry queue for the delay of a retry. -/
theorem stay?_retry (h : retryQueueArguments c = .ok arguments) :
    stay? arguments = some (c.retryDelay.millis : Int) := by
  obtain ⟨ttl, httl, rfl⟩ := retryQueueArguments_eq h
  rw [stay?, Keyed.get?_insert, if_pos rfl, Option.bind_some, Amqp.Value.integer?,
    toInt_timeToLive httl]

end Topology

/-! ### With a valid configuration -/

namespace Config

open Courier.Topology (View Lawful)

variable {σ : Type} {c : Config}

/-- No exchange of a valid configuration is without a name, and neither are two of the queues. -/
theorem names_of_validate (h : c.validate = .ok ()) :
    (∀ e ∈ c.exchanges, e ≠ "") ∧ c.retryQueue ≠ "" ∧ c.deadLetterQueue ≠ "" := by
  have hvalid := validate_eq_ok_iff.1 h
  -- the empty name is blank
  have hne {name : String} (hname : Text.isAllBlank name = false) : name ≠ "" := by
    rintro rfl
    cases hname
  refine ⟨fun e he => hne ?_, hne hvalid.retryQueue, hne hvalid.deadLetterQueue⟩
  exact Bool.eq_false_iff.2 (List.any_eq_false.1 hvalid.named e he)

/-- The loop of retries is closed: every route leads to one queue, and no two routes to one. -/
structure Closed (c : Config) (v : View σ) (mainQueue : String) (s : σ) : Prop where
  /-- A message that is published goes to the main queue. -/
  published : ∀ q, v.Leads s c.publishing.exchange c.publishing.routingKey q ↔ q = mainQueue
  /-- A retry goes to the retry queue. -/
  retried : ∀ q, v.Leads s c.processing.retryExchange c.processing.retryRoutingKey q ↔
    q = c.retryQueue
  /-- A message that is rejected from the main queue goes to the dead-letter queue. -/
  rejected : ∀ key q, v.Drops s mainQueue key q ↔ q = c.deadLetterQueue
  /-- A message that expires in the retry queue goes to the main queue. -/
  expired : ∀ key q, v.Drops s c.retryQueue key q ↔ q = mainQueue
  /-- It expires after the configured delay. -/
  delay : ∃ options arguments, v.queue? s c.retryQueue = some (options, arguments) ∧
    Topology.stay? arguments = some (c.retryDelayMs.toNat : Int)
  /-- Messages stay in the dead-letter queue. -/
  terminal : ∃ options arguments, v.queue? s c.deadLetterQueue = some (options, arguments) ∧
    Topology.stay? arguments = none ∧ ∀ key, Topology.deadLetterTarget? arguments key = none
  distinct : [c.retryQueue, c.deadLetterQueue, mainQueue].Nodup

/-- **The declared topology closes the loop of retries**, on every broker that declares as the
protocol says and has no bindings of the three exchanges, whatever the names of the queues are and
also if there are queues with these names. -/
theorem closed_of_declared {χ : Type} {v : View σ}
    {world : (q : Amqp.Ask χ) → σ → q.Answer × σ} {channel : χ} {t : Topology} {s s' : σ}
    (hl : Lawful v fun d => (d.on channel).run world) (hvalid : c.validate = .ok ())
    (hunbound : ∀ exchange ∈ c.exchanges, ∀ key q, ¬ v.Leads s exchange key q)
    (h : (Topology.declareOn channel c.topology).run world s = (.ok t, s')) :
    c.Closed v t.mainQueue s' := by
  obtain ⟨hnamed, hretry, hdead⟩ := names_of_validate hvalid
  obtain ⟨hne₁, hne₂, hne₃⟩ := exchanges_ne hvalid
  rw [Topology.declareOn, Dialogue.run_expand _ _ world fun _ _ => rfl] at h
  obtain ⟨arguments, harguments, hadded⟩ := Topology.added_of_declared hl hdead hretry h
  have hleads : ∀ exchange ∈ c.exchanges, ∀ key q, v.Leads s' exchange key q ↔
      (exchange, key, q) ∈ Topology.routesDeclared c.topology t.mainQueue := by
    -- the exchanges had no bindings, so all their routes are declared ones
    intro exchange hexchange key q
    rw [hadded.leads exchange key q (hnamed exchange hexchange)]
    exact or_iff_right (hunbound exchange hexchange key q)
  have hmain : ∀ q, v.Leads s' c.mainExchange c.mainRoutingKey q ↔ q = t.mainQueue := by
    intro q
    rw [hleads _ (by simp [exchanges])]
    simp [Topology.routesDeclared, topology, hne₁, hne₂]
  have hretries : ∀ q, v.Leads s' c.retryExchange c.retryRoutingKey q ↔ q = c.retryQueue := by
    intro q
    rw [hleads _ (by simp [exchanges])]
    simp [Topology.routesDeclared, topology, hne₁.symm, hne₃]
  have hdeads : ∀ q, v.Leads s' c.deadLetterExchange c.deadLetterRoutingKey q ↔
      q = c.deadLetterQueue := by
    intro q
    rw [hleads _ (by simp [exchanges])]
    simp [Topology.routesDeclared, topology, hne₂.symm, hne₃.symm]
  have hmainQueue := hadded.present
    (t.mainQueue, Topology.mainQueueOptions c.topology, Topology.mainQueueArguments c.topology)
    (by simp [Topology.queuesDeclared])
  have hretryQueue := hadded.present (c.retryQueue, Amqp.durableQueue, arguments)
    (by simp [Topology.queuesDeclared, topology])
  have hdeadQueue := hadded.present (c.deadLetterQueue, Amqp.durableQueue, .empty)
    (by simp [Topology.queuesDeclared, topology])
  refine ⟨hmain, hretries, fun key q => ?_, fun key q => ?_, ⟨_, _, hretryQueue, ?_⟩,
    ⟨_, _, hdeadQueue, rfl, fun _ => rfl⟩, hadded.distinct⟩
  · rw [Topology.drops_iff hmainQueue Topology.deadLetterRoute?_main]
    exact hdeads q
  · rw [Topology.drops_iff hretryQueue (Topology.deadLetterRoute?_retry harguments)]
    exact hmain q
  · rw [Topology.stay?_retry harguments, topology, Duration.millis_ofMillis]

/-! ### A broker -/

/-- The queues and the bindings of a broker that declares no queue twice. -/
structure Registry where
  queues : List (String × Amqp.QueueOptions × Amqp.Table)
  /-- An exchange, a key and the queue that they lead to. -/
  bindings : List (String × String × String)

namespace Registry

/-- What is seen of it. -/
def view : View Registry where
  queue? s name := s.queues.lookup name
  Leads s exchange key q := (exchange, key, q) ∈ s.bindings

/-- The name of a queue, a fixed one if it has none. -/
def nameFor (name : String) : String := if name = "" then "amq.gen" else name

/-- A queue is declared. -/
def declareQueue (s : Registry) (name : String) (options : Amqp.QueueOptions)
    (arguments : Amqp.Table) : Except Reason String × Registry :=
  if (s.queues.lookup (nameFor name)).isSome then (.error none, s)
  else (.ok (nameFor name), { s with queues := (nameFor name, options, arguments) :: s.queues })

/-- The answer to a method. -/
def call (s : Registry) : (m : Amqp.Method) → Except Reason m.Reply × Registry
  | .exchangeDeclare _ => (.ok (), s)
  | .queueDeclare name options arguments => s.declareQueue name options arguments
  | .queueBind q exchange key => (.ok (), { s with bindings := (exchange, key, q) :: s.bindings })
  | _ => (.error none, s)

/-- The answer to a question. -/
def answer : (q : Amqp.Ask Unit) → Registry → q.Answer × Registry
  | .call _ m, s => s.call m
  | .connect _, s => (.ok (), s)
  | .disconnect _, s => (.ok (), s)
  | .openChannel _, s => (.ok (), s)
  | .isConnected, s => (true, s)
  | .isOpen _, s => (true, s)

theorem declared {s s' : Registry} {name reported : String} {options : Amqp.QueueOptions}
    {arguments : Amqp.Table} (h : s.declareQueue name options arguments = (.ok reported, s')) :
    Topology.Declared view name options arguments reported s s' := by
  unfold declareQueue at h
  split at h
  · cases h
  · next hfree =>
    cases h
    have hnone : s.queues.lookup (nameFor name) = none := Option.not_isSome_iff_eq_none.1 hfree
    refine ⟨fun hne => if_neg hne, fun hempty => ⟨?_, hnone⟩, fun q hq => ?_, fun name' => ?_,
      fun _ _ _ _ => Iff.rfl⟩
    · rw [nameFor, if_pos hempty]
      decide
    · cases hnone.symm.trans hq
    · exact lookup_cons_eq ..

theorem lawful : Lawful view fun d => (d.on ()).run answer where
  exchange h := by
    cases h
    exact ⟨rfl, rfl⟩
  queue h := declared h
  binding h := by
    cases h
    refine ⟨rfl, fun e key q => ?_⟩
    change (e, key, q) ∈ _ :: _ ↔ _
    rw [List.mem_cons, Prod.mk.injEq, Prod.mk.injEq]
    exact or_comm

end Registry

/-- A configuration that leaves the name of the main queue to the broker. -/
def nameless : Config := { standard "amqp://localhost" with mainQueue := "" }

theorem closed_of_declared_nameless : nameless.validate = .ok () ∧ ∃ s',
    (Topology.declareOn () nameless.topology).run Registry.answer ⟨[], []⟩ =
      (.ok ⟨"amq.gen", .ofMillis 5000⟩, s') ∧ nameless.Closed Registry.view "amq.gen" s' := by
  refine ⟨rfl, _, rfl, ?_⟩
  exact closed_of_declared (s := ⟨[], []⟩) (t := ⟨"amq.gen", .ofMillis 5000⟩) Registry.lawful rfl
    (fun _ _ _ _ => List.not_mem_nil) rfl

end Config

end Courier
