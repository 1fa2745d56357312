import Courier.Proofs.Topology.Loop

/-!
# Declaring a topology again

Whoever declares a topology that is there already asks for nothing new, and whoever declares it with
another delay asks for a retry queue that the broker does not have.  The first seven declarations
are the same in both cases, and they change nothing; the eighth decides.

* `Topology.Unchanged` : a broker holds what it held before.
* `Topology.Retains`, `Topology.Repeats` : what a broker does with exchanges, and with a declaration
  that it has had before.
* `Topology.Standing` : a topology is there.
* `Topology.standing_of_declared` : it is, after it could be declared.
* `Topology.Harmless` : declarations that change nothing, and how they end.
* `Config.declared_again` : **to declare a topology again changes nothing, and to declare it with
  another delay is refused and changes nothing either.**
-/

namespace Courier

namespace Topology

variable {σ : Type}

/-- The broker holds in one state what it holds in another. -/
structure Unchanged (v : View σ) (holds : σ → String → Prop) (s s' : σ) : Prop where
  exchanges : ∀ name, holds s' name ↔ holds s name
  queues : ∀ name, v.queue? s' name = v.queue? s name
  /-- The bindings are the same. -/
  leads : ∀ exchange key q, v.Leads s' exchange key q ↔ v.Leads s exchange key q

/-- A broker that has an exchange as soon as it was declared, and as long as declarations are
accepted. -/
structure Retains (holds : σ → String → Prop)
    (answer : (d : Declaration) → σ → Answer d × σ) : Prop where
  exchange : ∀ {name reply s s'}, answer (.exchange name) s = (.ok reply, s') → holds s' name
  keeps : ∀ {d reply s s' name}, answer d s = (.ok reply, s') → holds s name → holds s' name

/-- A broker that accepts a declaration which it has had before, and refuses one that contradicts
it.  Neither changes what it holds.  It answers as long as it is ready, which it need not be after a
refusal. -/
structure Repeats (v : View σ) (holds : σ → String → Prop) (ready : σ → Prop)
    (answer : (d : Declaration) → σ → Answer d × σ) : Prop where
  exchange : ∀ {name s}, ready s → holds s name →
    ∃ reply s', answer (.exchange name) s = (.ok reply, s') ∧ ready s' ∧ Unchanged v holds s s'
  queue : ∀ {name options arguments s}, ready s → name ≠ "" →
    v.queue? s name = some (options, arguments) →
    ∃ s', answer (.queue name options arguments) s = (.ok name, s') ∧ ready s' ∧
      Unchanged v holds s s'
  binding : ∀ {queue exchange routingKey s}, ready s → exchange ≠ "" →
    v.Leads s exchange routingKey queue →
    ∃ reply s', answer (.binding queue exchange routingKey) s = (.ok reply, s') ∧ ready s' ∧
      Unchanged v holds s s'
  /-- A queue that has other arguments is refused. -/
  conflict : ∀ {name options options' arguments arguments' s}, ready s → name ≠ "" →
    v.queue? s name = some (options', arguments') → arguments' ≠ arguments →
    ∃ reason s', answer (.queue name options arguments) s = (.error reason, s') ∧
      Unchanged v holds s s'

variable {v : View σ} {holds : σ → String → Prop} {ready : σ → Prop} {s s' s'' : σ}
  {answer : (d : Declaration) → σ → Answer d × σ} {c : Config} {t : Topology}
  {arguments : Amqp.Table}

namespace Unchanged

theorem refl (s : σ) : Unchanged v holds s s := ⟨fun _ => .rfl, fun _ => rfl, fun _ _ _ => .rfl⟩

theorem trans (h : Unchanged v holds s s') (h' : Unchanged v holds s' s'') :
    Unchanged v holds s s'' where
  exchanges name := (h'.exchanges name).trans (h.exchanges name)
  queues name := (h'.queues name).trans (h.queues name)
  leads exchange key q := (h'.leads exchange key q).trans (h.leads exchange key q)

end Unchanged

/-! ### What is there after a topology was declared -/

/-- Nothing in a topology is without a name. -/
structure Config.Named (c : Config) : Prop where
  exchanges : ∀ name ∈ [c.mainExchange, c.deadLetterExchange, c.retryExchange], name ≠ ""
  mainQueue : c.mainQueue ≠ ""
  deadLetterQueue : c.deadLetterQueue ≠ ""
  retryQueue : c.retryQueue ≠ ""

/-- A topology is there: its exchanges, its queues as they are declared, and its bindings. -/
structure Standing (c : Config) (arguments : Amqp.Table) (v : View σ)
    (holds : σ → String → Prop) (s : σ) : Prop where
  exchanges : ∀ name ∈ [c.mainExchange, c.deadLetterExchange, c.retryExchange], holds s name
  queues : ∀ q ∈ queuesDeclared c arguments c.mainQueue, v.queue? s q.1 = some q.2
  routes : ∀ r ∈ routesDeclared c c.mainQueue, v.Leads s r.1 r.2.1 r.2.2

/-- The exchanges of a topology that could be declared are there, and it is known by the name that
its main queue has. -/
theorem holds_of_declared (hl : Lawful v answer) (hk : Retains holds answer)
    (hnamed : c.mainQueue ≠ "") (h : (declare c).run answer s = (.ok t, s')) :
    t = ⟨c.mainQueue, c.retryDelay⟩ ∧
      ∀ name ∈ [c.mainExchange, c.deadLetterExchange, c.retryExchange], holds s' name := by
  unfold declare at h
  cases harguments : retryQueueArguments c with
  | error e => rw [harguments] at h; cases h
  | ok arguments =>
    rw [harguments] at h
    obtain ⟨_, s₁, h₁, h⟩ := run_declaring h
    obtain ⟨_, s₂, h₂, h⟩ := run_declaring h
    obtain ⟨_, s₃, h₃, h⟩ := run_declaring h
    obtain ⟨mainQueue, s₄, h₄, h⟩ := run_declaring h
    obtain ⟨_, s₅, h₅, h⟩ := run_declaring h
    obtain ⟨_, s₆, h₆, h⟩ := run_declaring h
    obtain ⟨_, s₇, h₇, h⟩ := run_declaring h
    obtain ⟨_, s₈, h₈, h⟩ := run_declaring h
    obtain ⟨_, s₉, h₉, h⟩ := run_declaring h
    cases (hl.queue h₄).named hnamed
    cases h
    -- what the third exchange finds, the other six declarations leave
    have hkeep {name : String} (h : holds s₃ name) : holds s' name :=
      hk.keeps h₉ <| hk.keeps h₈ <| hk.keeps h₇ <| hk.keeps h₆ <| hk.keeps h₅ <| hk.keeps h₄ h
    refine ⟨rfl, fun name hname => hkeep ?_⟩
    simp only [List.mem_cons, List.not_mem_nil, or_false] at hname
    rcases hname with rfl | rfl | rfl
    · exact hk.keeps h₃ (hk.keeps h₂ (hk.exchange h₁))
    · exact hk.keeps h₃ (hk.exchange h₂)
    · exact hk.exchange h₃

/-- A topology that could be declared is there, with the name that its main queue has. -/
theorem standing_of_declared (hl : Lawful v answer) (hk : Retains holds answer) (hc : c.Named)
    (h : (declare c).run answer s = (.ok t, s')) :
    t = ⟨c.mainQueue, c.retryDelay⟩ ∧ ∃ arguments, retryQueueArguments c = .ok arguments ∧
      Standing c arguments v holds s' := by
  obtain ⟨arguments, harguments, hadded⟩ :=
    added_of_declared hl hc.deadLetterQueue hc.retryQueue h
  obtain ⟨rfl, hexchanges⟩ := holds_of_declared hl hk hc.mainQueue h
  refine ⟨rfl, arguments, harguments, hexchanges, hadded.present, fun r hr => ?_⟩
  obtain ⟨exchange, key, q⟩ := r
  have hne : exchange ≠ "" := by
    simp only [routesDeclared, List.mem_cons, List.not_mem_nil, or_false, Prod.mk.injEq] at hr
    rcases hr with ⟨rfl, -⟩ | ⟨rfl, -⟩ | ⟨rfl, -⟩ <;> exact hc.exchanges _ (by simp)
  exact (hadded.leads exchange key q hne).2 (.inr hr)

/-! ### Declarations that change nothing -/

/-- In a state that differs from `s` in nothing that the broker holds, the declarations change
nothing either, and end with a result of a kind. -/
def Harmless (v : View σ) (holds : σ → String → Prop) (ready : σ → Prop)
    (answer : (d : Declaration) → σ → Answer d × σ) (s : σ) {α : Type} (d : Declaring α)
    (P : α → Prop) : Prop :=
  ∀ s₁, ready s₁ → Unchanged v holds s s₁ →
    ∃ a s', d.run answer s₁ = (a, s') ∧ P a ∧ Unchanged v holds s s'

namespace Harmless

variable {α : Type} {P : Except TopologyError α → Prop}
  {next : String → Declaring (Except TopologyError α)}

theorem done {a : Except TopologyError α} (h : P a) :
    Harmless v holds ready answer s (.done a) P :=
  fun s₁ _ hs₁ => ⟨a, s₁, rfl, h, hs₁⟩

/-- A declaration that is accepted and changes nothing can stand before harmless ones. -/
theorem declaring {d : Declaration}
    (hd : ∀ s₁, ready s₁ → Unchanged v holds s s₁ →
      ∃ reply s₂, answer d s₁ = (.ok reply, s₂) ∧ ready s₂ ∧ Unchanged v holds s₁ s₂ ∧
        Harmless v holds ready answer s (next reply) P) :
    Harmless v holds ready answer s (Topology.declaring d next) P := by
  intro s₁ hready hs₁
  obtain ⟨reply, s₂, hanswer, hready₂, hs₂, hnext⟩ := hd s₁ hready hs₁
  obtain ⟨a, s', hrun, ha, hs'⟩ := hnext s₂ hready₂ (hs₁.trans hs₂)
  refine ⟨a, s', ?_, ha, hs'⟩
  rw [Topology.declaring, Dialogue.run_ask, hanswer]
  exact hrun

variable (hr : Repeats v holds ready answer)

include hr

/-- An exchange that is there can be declared. -/
theorem exchange {name : String} (hname : holds s name)
    (h : ∀ reply, Harmless v holds ready answer s (next reply) P) :
    Harmless v holds ready answer s (Topology.declaring (.exchange name) next) P := by
  refine declaring fun s₁ hready hs₁ => ?_
  obtain ⟨reply, s₂, hanswer, hready₂, hs₂⟩ := hr.exchange hready ((hs₁.exchanges name).2 hname)
  exact ⟨reply, s₂, hanswer, hready₂, hs₂, h reply⟩

/-- A queue can be declared as it is. -/
theorem queue {name : String} {options : Amqp.QueueOptions} (hne : name ≠ "")
    (hqueue : v.queue? s name = some (options, arguments))
    (h : Harmless v holds ready answer s (next name) P) :
    Harmless v holds ready answer s
      (Topology.declaring (.queue name options arguments) next) P := by
  refine declaring fun s₁ hready hs₁ => ?_
  obtain ⟨s₂, hanswer, hready₂, hs₂⟩ := hr.queue hready hne ((hs₁.queues name).trans hqueue)
  exact ⟨name, s₂, hanswer, hready₂, hs₂, h⟩

/-- A binding that is there can be declared. -/
theorem binding {q exchange routingKey : String} (hne : exchange ≠ "")
    (hleads : v.Leads s exchange routingKey q)
    (h : ∀ reply, Harmless v holds ready answer s (next reply) P) :
    Harmless v holds ready answer s
      (Topology.declaring (.binding q exchange routingKey) next) P := by
  refine declaring fun s₁ hready hs₁ => ?_
  obtain ⟨reply, s₂, hanswer, hready₂, hs₂⟩ := hr.binding hready hne
    ((hs₁.leads exchange routingKey q).2 hleads)
  exact ⟨reply, s₂, hanswer, hready₂, hs₂, h reply⟩

/-- A queue that has other arguments cannot be declared. -/
theorem conflict {name : String} {options options' : Amqp.QueueOptions} {arguments' : Amqp.Table}
    (hname : name ≠ "") (hqueue : v.queue? s name = some (options', arguments'))
    (hne : arguments' ≠ arguments) :
    Harmless v holds ready answer s (Topology.declaring (.queue name options arguments) next)
      fun a => ∃ reason, a = .error (.queue name reason) := by
  intro s₁ hready hs₁
  have hrefused : ∃ reason s₂, answer (.queue name options arguments) s₁ = (.error reason, s₂) ∧
      Unchanged v holds s₁ s₂ := hr.conflict hready hname ((hs₁.queues name).trans hqueue) hne
  obtain ⟨reason, s₂, hanswer, hs₂⟩ := hrefused
  refine ⟨_, s₂, ?_, ⟨reason, rfl⟩, hs₁.trans hs₂⟩
  rw [Topology.declaring, Dialogue.run_ask, hanswer]
  rfl

end Harmless

/-! ### A topology that is there -/

variable {delay : Duration} {arguments' : Amqp.Table}

/-- Up to the retry queue, the declarations of a topology with another delay are those of the one
that is there. -/
theorem Standing.harmless (hst : Standing c arguments v holds s) (hc : c.Named)
    (hr : Repeats v holds ready answer)
    (h : retryQueueArguments { c with retryDelay := delay } = .ok arguments')
    {P : Except TopologyError Topology → Prop}
    (hretry : Harmless v holds ready answer s
      (declaring (.queue c.retryQueue Amqp.durableQueue arguments') fun _ =>
        declaring (.binding c.retryQueue c.retryExchange c.retryRoutingKey) fun _ =>
        .done (.ok ⟨c.mainQueue, delay⟩)) P) :
    Harmless v holds ready answer s (declare { c with retryDelay := delay }) P := by
  have hmain : v.queue? s c.mainQueue = some (mainQueueOptions c, mainQueueArguments c) :=
    hst.queues (c.mainQueue, mainQueueOptions c, mainQueueArguments c) (by simp [queuesDeclared])
  have hdead : v.queue? s c.deadLetterQueue = some (Amqp.durableQueue, .empty) :=
    hst.queues (c.deadLetterQueue, Amqp.durableQueue, .empty) (by simp [queuesDeclared])
  have hmainRoute : v.Leads s c.mainExchange c.mainRoutingKey c.mainQueue :=
    hst.routes (c.mainExchange, c.mainRoutingKey, c.mainQueue) (by simp [routesDeclared])
  have hdeadRoute : v.Leads s c.deadLetterExchange c.deadLetterRoutingKey c.deadLetterQueue :=
    hst.routes (c.deadLetterExchange, c.deadLetterRoutingKey, c.deadLetterQueue)
      (by simp [routesDeclared])
  simp only [declare, h]
  refine .exchange hr (hst.exchanges _ (by simp)) fun _ => ?_
  refine .exchange hr (hst.exchanges _ (by simp)) fun _ => ?_
  refine .exchange hr (hst.exchanges _ (by simp)) fun _ => ?_
  refine .queue hr hc.mainQueue hmain ?_
  refine .binding hr (hc.exchanges _ (by simp)) hmainRoute fun _ => ?_
  refine .queue hr hc.deadLetterQueue hdead ?_
  exact .binding hr (hc.exchanges _ (by simp)) hdeadRoute fun _ => hretry

/-- The retry queue of a topology that is there. -/
theorem Standing.retryQueue (hst : Standing c arguments v holds s) :
    v.queue? s c.retryQueue = some (Amqp.durableQueue, arguments) :=
  hst.queues (c.retryQueue, Amqp.durableQueue, arguments) (by simp [queuesDeclared])

/-- To declare a topology that is there changes nothing. -/
theorem Standing.again (hst : Standing c arguments v holds s) (hc : c.Named)
    (hr : Repeats v holds ready answer) (h : retryQueueArguments c = .ok arguments) :
    Harmless v holds ready answer s (declare c) fun a => a = .ok ⟨c.mainQueue, c.retryDelay⟩ := by
  have hretryRoute : v.Leads s c.retryExchange c.retryRoutingKey c.retryQueue :=
    hst.routes (c.retryExchange, c.retryRoutingKey, c.retryQueue) (by simp [routesDeclared])
  have hsame : retryQueueArguments { c with retryDelay := c.retryDelay } = .ok arguments := h
  refine hst.harmless hc hr hsame ?_
  refine .queue hr hc.retryQueue hst.retryQueue ?_
  exact .binding hr (hc.exchanges _ (by simp)) hretryRoute fun _ => .done rfl

/-- Retry queues with different delays have different arguments. -/
theorem retryQueueArguments_ne (h : retryQueueArguments c = .ok arguments)
    (h' : retryQueueArguments { c with retryDelay := delay } = .ok arguments')
    (hne : delay.millis ≠ c.retryDelay.millis) : arguments ≠ arguments' := by
  rintro rfl
  have hstay := (stay?_retry h').symm.trans (stay?_retry h)
  exact hne (Int.ofNat.inj (Option.some.inj hstay))

/-- To declare a topology that is there with another delay is refused and changes nothing. -/
theorem Standing.conflict (hst : Standing c arguments v holds s) (hc : c.Named)
    (hr : Repeats v holds ready answer) (h : retryQueueArguments c = .ok arguments)
    (h' : retryQueueArguments { c with retryDelay := delay } = .ok arguments')
    (hne : delay.millis ≠ c.retryDelay.millis) :
    Harmless v holds ready answer s (declare { c with retryDelay := delay })
      fun a => ∃ reason, a = .error (.queue c.retryQueue reason) :=
  have hdiffer := retryQueueArguments_ne h h' hne
  hst.harmless hc hr h' (.conflict hr hc.retryQueue hst.retryQueue hdiffer)

/-- A delay makes arguments of the retry queue exactly if its milliseconds are positive and fit a
signed integer of 64 bits. -/
theorem retryQueueArguments_cases (c : Config) :
    (0 < c.retryDelay.millis ∧ c.retryDelay.millis < 9223372036854775808 ∧
      ∃ arguments, retryQueueArguments c = .ok arguments) ∨
    (¬ (0 < c.retryDelay.millis ∧ c.retryDelay.millis < 9223372036854775808) ∧
      ∃ problem, retryQueueArguments c = .error (.invalid problem)) := by
  unfold retryQueueArguments timeToLive
  split
  · next hlarge => exact .inr ⟨fun h => Nat.not_le.2 h.2 hlarge, _, rfl⟩
  · next hfits =>
    split
    · next hzero => exact .inr ⟨fun h => Nat.ne_of_gt h.1 hzero, _, rfl⟩
    · next hpos => exact .inl ⟨Nat.pos_of_ne_zero hpos, Nat.not_le.1 hfits, _, rfl⟩

end Topology

/-! ### With a valid configuration -/

namespace Config

open Courier.Topology (View Lawful Retains Repeats Unchanged)

variable {σ : Type} {c : Config}

/-- Nothing in the topology of a valid configuration is without a name but the main queue. -/
theorem named_topology (h : c.validate = .ok ()) (hmain : c.mainQueue ≠ "") :
    c.topology.Named := by
  obtain ⟨hexchanges, hretry, hdead⟩ := names_of_validate h
  refine ⟨fun name hname => hexchanges name ?_, hmain, hdead, hretry⟩
  simp only [topology, List.mem_cons, List.not_mem_nil, or_false] at hname
  rcases hname with rfl | rfl | rfl <;> simp [exchanges]

/-- **To declare a topology again changes nothing, and to declare it with another delay is refused
and changes nothing either**, on every broker that declares as the protocol says and knows a
declaration which it has had before.  The refusal names the retry queue, unless the delay is none
that could be asked for. -/
theorem declared_again {χ : Type} {v : View σ} {holds : σ → String → Prop} {ready : σ → Prop}
    {world : (q : Amqp.Ask χ) → σ → q.Answer × σ} {channel channel' : χ} {t : Topology}
    {s₀ s : σ} (hl : Lawful v fun d => (d.on channel).run world)
    (hk : Retains holds fun d => (d.on channel).run world)
    (hr : Repeats v holds ready fun d => (d.on channel').run world)
    (hvalid : c.validate = .ok ()) (hmain : c.mainQueue ≠ "")
    (h : (Topology.declareOn channel c.topology).run world s₀ = (.ok t, s)) (hready : ready s) :
    (∃ s', (Topology.declareOn channel' c.topology).run world s = (.ok t, s') ∧
      Unchanged v holds s s') ∧
    ∀ delay : Duration, delay.millis ≠ c.retryDelayMs.toNat →
      ∃ e s', (Topology.declareOn channel' { c.topology with retryDelay := delay }).run world s =
        (.error e, s') ∧ Unchanged v holds s s' ∧
        if 0 < delay.millis ∧ delay.millis < 9223372036854775808 then
          ∃ reason, e = .queue c.retryQueue reason
        else ∃ problem, e = .invalid problem := by
  have hc := named_topology hvalid hmain
  have hrun (channel : χ) (c : Topology.Config) (s : σ) :
      (Topology.declareOn channel c).run world s =
        (Topology.declare c).run (fun d => (d.on channel).run world) s :=
    Dialogue.run_expand _ _ world (fun _ _ => rfl) _ s
  rw [hrun] at h
  obtain ⟨rfl, arguments, harguments, hst⟩ := Topology.standing_of_declared hl hk hc h
  refine ⟨?_, fun delay hne => ?_⟩
  · obtain ⟨_, s', hagain, rfl, hs'⟩ := hst.again hc hr harguments s hready (.refl s)
    exact ⟨s', (hrun ..).trans hagain, hs'⟩
  · have hne' : delay.millis ≠ c.topology.retryDelay.millis := by
      rwa [topology, Duration.millis_ofMillis]
    rcases Topology.retryQueueArguments_cases { c.topology with retryDelay := delay } with
      ⟨hpos, hfits, arguments', harguments'⟩ | ⟨hunfit, problem, hproblem⟩
    · obtain ⟨_, s', hconflict, ⟨reason, rfl⟩, hs'⟩ :=
        hst.conflict hc hr harguments harguments' hne' s hready (.refl s)
      refine ⟨_, s', (hrun ..).trans hconflict, hs', ?_⟩
      rw [if_pos ⟨hpos, hfits⟩]
      exact ⟨reason, rfl⟩
    · refine ⟨.invalid problem, s, ?_, .refl s, ?_⟩
      · rw [hrun]
        simp only [Topology.declare, hproblem]
        rfl
      · rw [if_neg hunfit]
        exact ⟨problem, rfl⟩

/-! ### A broker -/

/-- What a broker holds, and whether the channel to it is open. -/
structure Depot where
  exchanges : List String
  queues : List (String × Amqp.QueueOptions × Amqp.Table)
  /-- An exchange, a key and the queue that they lead to. -/
  bindings : List (String × String × String)
  isOpen : Bool

namespace Depot

/-- What is seen of it. -/
def view : View Depot where
  queue? s name := s.queues.lookup name
  Leads s exchange key q := (exchange, key, q) ∈ s.bindings

/-- The exchanges that it has. -/
def holds (s : Depot) (name : String) : Prop := name ∈ s.exchanges

/-- Whether the channel is open. -/
def ready (s : Depot) : Prop := s.isOpen = true

open Classical in
/-- A queue is declared.  One that is there has to be declared as it is; a refusal closes the
channel. -/
noncomputable def declareQueue (s : Depot) (name : String) (options : Amqp.QueueOptions)
    (arguments : Amqp.Table) : Except Reason String × Depot :=
  match s.queues.lookup (Registry.nameFor name) with
  | none =>
    (.ok (Registry.nameFor name),
      { s with queues := (Registry.nameFor name, options, arguments) :: s.queues })
  | some q =>
    if name ≠ "" ∧ q = (options, arguments) then (.ok name, s)
    else (.error (some "PRECONDITION_FAILED"), { s with isOpen := false })

/-- The answer to a method over an open channel. -/
noncomputable def call (s : Depot) : (m : Amqp.Method) → Except Reason m.Reply × Depot
  | .exchangeDeclare name => (.ok (), { s with exchanges := s.exchanges.insert name })
  | .queueDeclare name options arguments => s.declareQueue name options arguments
  | .queueBind q exchange key =>
    (.ok (), { s with bindings := s.bindings.insert (exchange, key, q) })
  | _ => (.error none, s)

/-- The answer to a question. -/
noncomputable def answer : (q : Amqp.Ask Unit) → Depot → q.Answer × Depot
  | .call _ m, s => if s.isOpen then s.call m else (.error none, s)
  | .connect _, s => (.ok (), s)
  | .disconnect _, s => (.ok (), s)
  | .openChannel _, s => (.ok (), { s with isOpen := true })
  | .isConnected, s => (true, s)
  | .isOpen _, s => (s.isOpen, s)

/-- The answer to a declaration. -/
noncomputable def declare (d : Topology.Declaration) (s : Depot) :
    Topology.Answer d × Depot :=
  (d.on ()).run answer s

variable {s s' : Depot} {name reported : String} {options : Amqp.QueueOptions}
  {arguments : Amqp.Table}

theorem declare_of_closed (h : s.isOpen = false) (d : Topology.Declaration) :
    declare d s = (.error none, s) := by
  obtain ⟨_, _, _, isOpen⟩ := s
  cases h
  cases d <;> rfl

theorem declare_exchange (h : s.isOpen = true) (name : String) :
    declare (.exchange name) s = (.ok name, { s with exchanges := s.exchanges.insert name }) := by
  obtain ⟨_, _, _, isOpen⟩ := s
  cases h
  rfl

theorem declare_queue (h : s.isOpen = true) :
    declare (.queue name options arguments) s = s.declareQueue name options arguments := by
  obtain ⟨_, _, _, isOpen⟩ := s
  cases h
  rfl

theorem declare_binding (h : s.isOpen = true) (q exchange key : String) :
    declare (.binding q exchange key) s =
      (.ok q, { s with bindings := s.bindings.insert (exchange, key, q) }) := by
  obtain ⟨_, _, _, isOpen⟩ := s
  cases h
  rfl

/-- Only an open channel answers. -/
theorem isOpen_of_declared {d : Topology.Declaration} (h : declare d s = (.ok reported, s')) :
    s.isOpen = true := by
  cases hopen : s.isOpen with
  | true => rfl
  | false =>
    rw [declare_of_closed hopen] at h
    cases h

theorem declared (h : s.declareQueue name options arguments = (.ok reported, s')) :
    Topology.Declared view name options arguments reported s s' := by
  unfold declareQueue at h
  split at h
  · next hfree =>
    cases h
    refine ⟨fun hne => if_neg hne, fun hempty => ⟨?_, hfree⟩, fun q hq => ?_, fun name' => ?_,
      fun _ _ _ _ => Iff.rfl⟩
    · rw [Registry.nameFor, if_pos hempty]
      decide
    · cases hfree.symm.trans hq
    · exact lookup_cons_eq ..
  · next q hq =>
    split at h
    · next hsame =>
      obtain ⟨hne, rfl⟩ := hsame
      cases h
      have hname : Registry.nameFor name = name := if_neg hne
      rw [hname] at hq
      refine ⟨fun _ => rfl, fun hempty => absurd hempty hne, fun q' hq' => ?_, fun name' => ?_,
        fun _ _ _ _ => Iff.rfl⟩
      · exact Option.some.inj (hq'.symm.trans hq)
      · split
        · next heq => rw [heq]; exact hq
        · rfl
    · cases h

/-- A queue that is declared leaves the exchanges as they are. -/
theorem exchanges_declareQueue :
    (s.declareQueue name options arguments).2.exchanges = s.exchanges := by
  unfold declareQueue
  split
  · rfl
  · split <;> rfl

theorem lawful : Lawful view declare where
  exchange h := by
    rw [declare_exchange (isOpen_of_declared h)] at h
    cases h
    exact ⟨rfl, rfl⟩
  queue h := by
    rw [declare_queue (isOpen_of_declared h)] at h
    exact declared h
  binding h := by
    rw [declare_binding (isOpen_of_declared h)] at h
    cases h
    refine ⟨rfl, fun e key q => ?_⟩
    change (e, key, q) ∈ List.insert _ _ ↔ _
    rw [List.mem_insert_iff, Prod.mk.injEq, Prod.mk.injEq]
    exact or_comm

theorem retains : Retains holds declare where
  exchange h := by
    rw [declare_exchange (isOpen_of_declared h)] at h
    cases h
    exact List.mem_insert_self
  keeps {d _ s s' name} h hname := by
    have hopen := isOpen_of_declared h
    cases d with
    | exchange _ =>
      rw [declare_exchange hopen] at h
      cases h
      exact List.mem_insert_of_mem hname
    | queue _ _ _ =>
      rw [declare_queue hopen] at h
      have hexchanges : s'.exchanges = s.exchanges := by
        rw [← exchanges_declareQueue (s := s), h]
      rw [holds, hexchanges]
      exact hname
    | binding _ _ _ =>
      rw [declare_binding hopen] at h
      cases h
      exact hname

theorem repeats : Repeats view holds ready declare where
  exchange {name s} hready hname := by
    refine ⟨_, _, declare_exchange hready name, hready, fun name' => ?_, fun _ => rfl,
      fun _ _ _ => Iff.rfl⟩
    rw [holds, List.insert_of_mem hname]
    exact Iff.rfl
  queue {name options arguments s} hready hne hqueue := by
    have hname : Registry.nameFor name = name := if_neg hne
    have hlookup : s.queues.lookup (Registry.nameFor name) = some (options, arguments) := by
      rw [hname]
      exact hqueue
    refine ⟨s, ?_, hready, .refl s⟩
    rw [declare_queue hready, declareQueue, hlookup]
    exact if_pos ⟨hne, rfl⟩
  binding {q exchange key s} hready _ hleads := by
    refine ⟨_, _, declare_binding hready q exchange key, hready, fun _ => Iff.rfl, fun _ => rfl,
      fun _ _ _ => ?_⟩
    change _ ∈ List.insert _ _ ↔ _
    rw [List.insert_of_mem hleads]
    exact Iff.rfl
  conflict {name options options' arguments arguments' s} hready hne hqueue hdiffers := by
    have hname : Registry.nameFor name = name := if_neg hne
    have hlookup : s.queues.lookup (Registry.nameFor name) = some (options', arguments') := by
      rw [hname]
      exact hqueue
    have hother : ¬ (name ≠ "" ∧ (options', arguments') = (options, arguments)) :=
      fun h => hdiffers (congrArg Prod.snd h.2)
    refine ⟨some "PRECONDITION_FAILED", { s with isOpen := false }, ?_, fun _ => Iff.rfl,
      fun _ => rfl, fun _ _ _ => Iff.rfl⟩
    rw [declare_queue hready, declareQueue, hlookup]
    exact if_neg hother

end Depot

/-- The standard topology, declared three times: the last time with another delay. -/
theorem declared_again_standard : ∃ s,
    (Topology.declareOn () (standard "amqp://localhost").topology).run Depot.answer
      ⟨[], [], [], true⟩ = (.ok ⟨"push_notifs_queue", .ofMillis 5000⟩, s) ∧
    (∃ s', (Topology.declareOn () (standard "amqp://localhost").topology).run Depot.answer s =
      (.ok ⟨"push_notifs_queue", .ofMillis 5000⟩, s') ∧
      Unchanged Depot.view Depot.holds s s') ∧
    ∃ reason s', (Topology.declareOn ()
      { (standard "amqp://localhost").topology with retryDelay := .ofMillis 900 }).run
        Depot.answer s = (.error (.queue "retry-notifs_queue" reason), s') ∧
      Unchanged Depot.view Depot.holds s s' := by
  have hrun := Dialogue.run_expand (Topology.Declaration.on ()) Depot.declare Depot.answer
    (fun _ _ => rfl) (Topology.declare (standard "amqp://localhost").topology) ⟨[], [], [], true⟩
  have hfirst : (Topology.declareOn () (standard "amqp://localhost").topology).run Depot.answer
      ⟨[], [], [], true⟩ = (.ok ⟨"push_notifs_queue", .ofMillis 5000⟩, _) :=
    hrun.trans (Prod.ext rfl rfl)
  have hready : Depot.ready ((Topology.declare (standard "amqp://localhost").topology).run
    Depot.declare ⟨[], [], [], true⟩).2 := rfl
  obtain ⟨hagain, hconflict⟩ := declared_again (c := standard "amqp://localhost") Depot.lawful
    Depot.retains Depot.repeats rfl (by decide) hfirst hready
  obtain ⟨e, s', hrefused, hs', hwhy⟩ := hconflict (.ofMillis 900) (by decide)
  rw [if_pos (by decide)] at hwhy
  obtain ⟨reason, rfl⟩ := hwhy
  exact ⟨_, hfirst, hagain, reason, s', hrefused, hs'⟩

end Config

end Courier
