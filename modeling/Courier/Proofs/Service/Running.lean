import Courier.Proofs.Lists
import Courier.Proofs.Service.Startup
import Courier.Proofs.Worker.Logbook

/-!
# The service and its workers

The service takes its steps while its workers go about their rounds, in any order.  A step of the
service has an answer from outside, whatever it is, except where it is about the workers: they
start with the step that starts them, the token is cancelled when the service cancels it, and the
service has waited for its workers when all of them have ended or when its patience has.

* `Service.Reacts` : what a step of the service has to do with the workers.
* `Service.Running` : a service with its workers.
* `Service.Running.Reachable` : what can become of it, in any order of events.
* `Service.Running.sound` : what holds in every state.
-/

namespace Courier

namespace Service

/-- The workers of a service, once they have started. -/
structure Crew where
  config : Config
  pool : Worker.Pool
  /-- What the workers have done, the oldest entry first. -/
  log : List Worker.Entry

namespace Crew

/-- Workers that have just been started. -/
def start (c : Config) : Crew := ⟨c, .start c.workers.count.toNat, []⟩

/-- The workers once the service has cancelled their token. -/
def cancel (k : Crew) : Crew :=
  { k with pool := { k.pool with cancelled := true }, log := k.log ++ [.cancel] }

/-- Whether all of them have ended. -/
def hasEnded (k : Crew) : Bool := k.pool.workers.all Worker.Phase.hasEnded

end Crew

/-- What goes on beside a service. -/
structure Surroundings where
  crew : Option Crew
  /-- Whether the service has stopped waiting for its workers before they ended. -/
  impatient : Bool

/-- Whether a step has to do with the workers. -/
def Step.concernsWorkers : Step → Bool
  | .startWorkers _ => true
  | .awaitStop => true
  | .cancelWorkers => true
  | .awaitWorkers _ => true
  | .loadConfig => false
  | .broker _ => false
  | .findCredentials => false
  | .startPublisher _ => false
  | .bindPort _ => false
  | .serve => false
  | .awaitServer => false
  | .awaitPublisher => false

/-- What a step of the service can be answered, and what it does to its surroundings. -/
inductive Reacts (w : Surroundings) : (q : Step) → q.Answer → Surroundings → Prop where
  | start (c : Config) : Reacts w (.startWorkers c) () { w with crew := some (.start c) }
  /-- The service is told that a worker has failed only if the token is cancelled. -/
  | stop (cause : Cause)
      (reason : cause = .workersFailed → ∃ k, w.crew = some k ∧ k.pool.cancelled = true) :
    Reacts w .awaitStop cause w
  | cancel : Reacts w .cancelWorkers () { w with crew := w.crew.map Crew.cancel }
  /-- All workers have ended. -/
  | joined (grace : Duration) (ended : ∀ k, w.crew = some k → k.hasEnded = true) :
    Reacts w (.awaitWorkers grace) () w
  /-- The time is over. -/
  | expired (grace : Duration) : Reacts w (.awaitWorkers grace) () { w with impatient := true }
  | other (q : Step) (answer : q.Answer) (h : q.concernsWorkers = false) : Reacts w q answer w

/-- A service with its workers. -/
structure Running where
  /-- What the service has yet to do. -/
  rest : Life (Except Failure Unit)
  past : Past
  around : Surroundings

namespace Running

/-- A service that has done nothing yet. -/
def start : Running := ⟨run, [], none, false⟩

/-- What can happen: the service takes its next step, or its workers do something. -/
inductive Next (s : Running) : Running → Prop where
  | main {q : Step} {next : q.Answer → Life (Except Failure Unit)} {answer : q.Answer}
      {w : Surroundings} (asks : s.rest = .ask q next) (reacts : Reacts s.around q answer w) :
    Next s ⟨next answer, s.past ++ [⟨q, answer⟩], w⟩
  | work {k : Crew} {entry : Worker.Entry} {pool : Worker.Pool} (present : s.around.crew = some k)
      (move : Worker.Move k.config.processing k.pool entry pool) :
    Next s ⟨s.rest, s.past, some ⟨k.config, pool, k.log ++ [entry]⟩, s.around.impatient⟩

/-- What can become of a service. -/
inductive Reachable : Running → Prop where
  | start : Reachable start
  /-- One more thing has happened. -/
  | step {s s' : Running} (before : Reachable s) (next : Next s s') : Reachable s'

end Running

/-! ### Where a step is in the plan -/

section Placed

open Dialogue (Path Smooth)

variable {c c' : Config} {retryArguments : Amqp.Table} {past : Past}
  {rest : Life (Except Failure Unit)}

/-- What is known of the plan once the configuration is loaded and there is something to declare. -/
structure Known (past : Past) (c : Config) (retryArguments : Amqp.Table) : Prop where
  loaded : loaded? past = some c
  accepted : Topology.retryQueueArguments c.topology = .ok retryArguments

theorem Known.plan_eq (h : Known past c retryArguments) : plan past =
    groundwork c (mainQueue past) retryArguments ++ ([.startWorkers c] ++
      (admission c ++ shutdown c)) := by
  rw [plan_of_loaded h.loaded h.accepted, startup, List.append_assoc]
  rfl

/-- What was done goes by the plan. -/
theorem Course.planned (h : Course past rest) : past.map Sigma.fst <+: plan past := by
  cases h with
  | under hunder =>
    cases hunder with
    | asks planned smooth => exact (List.prefix_append _ _).trans planned
    | fails e planned smooth refused =>
      rw [List.map_append]
      exact planned
  | misfit c e loaded refused opened smooth =>
    have hdone : past.map Sigma.fst = plan past :=
      opened.trans (plan_of_misfit loaded refused).symm
    exact hdone ▸ List.prefix_refl _
  | ended c retryArguments result loaded accepted planned complete smooth => exact planned

/-- A step that failed was the last one, and the service has ended with an error. -/
theorem Course.halts (h : Course past rest) {before after : Past} {x : (q : Step) × q.Answer}
    (hpast : past = before ++ x :: after) (hx : x.1.failed x.2 = true) :
    after = [] ∧ ∃ e, rest = .done (.error e) := by
  have smooth_absurd {l : Past} (hl : Smooth Step.failed l) (hmem : x ∈ l) : False :=
    Bool.false_ne_true ((hl x hmem).symm.trans hx)
  have hmem : x ∈ past := hpast ▸ List.mem_append_right _ List.mem_cons_self
  cases h with
  | under hunder =>
    cases hunder with
    | asks planned smooth => exact (smooth_absurd smooth hmem).elim
    | @fails l q answer e planned smooth refused =>
      rcases split_snoc hpast with ⟨rfl, -, -⟩ | ⟨rest, -, rfl⟩
      · exact ⟨rfl, e, rfl⟩
      · exact (smooth_absurd smooth (List.mem_append_right _ List.mem_cons_self)).elim
  | misfit c e loaded refused opened smooth => exact (smooth_absurd smooth hmem).elim
  | ended c retryArguments result loaded accepted planned complete smooth =>
    exact (smooth_absurd smooth hmem).elim

/-- Some steps were taken, and none of them failed. -/
def Confirmed (steps : List Step) (past : Past) : Prop :=
  ∀ q ∈ steps, ∃ answer, ⟨q, answer⟩ ∈ past ∧ q.failed answer = false

/-- A step that is not in the first part of the plan comes after that part, all of which has
succeeded. -/
theorem Course.confirmed (h : Course past rest) {first second : List Step}
    (hplan : plan past = first ++ second) {before after : Past} {x : (q : Step) × q.Answer}
    (hpast : past = before ++ x :: after) (hx : x.1 ∉ first) : Confirmed first before := by
  have hplanned : before.map Sigma.fst ++ [x.1] <+: first ++ second := by
    have hle := h.planned
    rw [hplan, hpast, List.map_append, List.map_cons, List.append_cons] at hle
    exact (List.prefix_append _ _).trans hle
  have hdone := prefix_of_not_mem hplanned hx
  intro q hq
  obtain ⟨⟨q, answer⟩, hmem, rfl⟩ := List.mem_map.1 (hdone.subset hq)
  refine ⟨answer, hmem, ?_⟩
  -- a failure would have been the last step, and `x` came later
  cases hfailed : q.failed answer with
  | false => rfl
  | true =>
    obtain ⟨l, l', rfl⟩ := List.append_of_mem hmem
    have hpast' : past = l ++ ⟨q, answer⟩ :: (l' ++ x :: after) := by simpa using hpast
    exact absurd (h.halts hpast' hfailed).1 (by simp)

/-- Whether a step is taken before there is anything to declare. -/
def Step.early : Step → Bool
  | .loadConfig => true
  | .broker (.connect _) => true
  | .broker (.openChannel .setup) => true
  | _ => false

/-- Everything is known when a later step is taken. -/
theorem exists_known {q : Step} (hq : q ∈ plan past) (hearly : q.early = false) :
    ∃ c retryArguments, Known past c retryArguments := by
  cases hloaded : loaded? past with
  | none =>
    simp only [plan, hloaded, List.mem_singleton] at hq
    rw [hq] at hearly
    cases hearly
  | some c =>
    cases haccepted : Topology.retryQueueArguments c.topology with
    | error e =>
      rw [plan_of_misfit hloaded haccepted] at hq
      simp only [opening, List.mem_cons, List.not_mem_nil, or_false] at hq
      rcases hq with rfl | rfl | rfl <;> cases hearly
    | ok retryArguments => exact ⟨c, retryArguments, hloaded, haccepted⟩

theorem Course.mem_plan (h : Course past rest) {x : (q : Step) × q.Answer} (hx : x ∈ past) :
    x.1 ∈ plan past := h.planned.subset (List.mem_map_of_mem hx)

/-- The groundwork has nothing to do with workers at work. -/
theorem not_mem_groundwork {q : Step} (hq : q.concernsWorkers = true) (c : Config)
    (queue : String) (retryArguments : Amqp.Table) : q ∉ groundwork c queue retryArguments := by
  cases q with
  | startWorkers | awaitStop | cancelWorkers | awaitWorkers =>
    simp [groundwork, opening, declarations, preparations, onSetup]
  | _ => cases hq

/-- When the workers are to start, the groundwork is laid and nothing else has happened. -/
theorem Course.start_eq {next : Unit → Life (Except Failure Unit)}
    (h : Course past (.ask (.startWorkers c') next)) :
    ∃ c retryArguments, Known past c retryArguments ∧ c' = c ∧
      past.map Sigma.fst = groundwork c (mainQueue past) retryArguments := by
  cases h with
  | under hunder =>
    cases hunder with
    | asks planned smooth =>
      have hmem : Step.startWorkers c' ∈ plan past := planned.subset (by simp)
      obtain ⟨c, retryArguments, hknown⟩ := exists_known hmem rfl
      have hground := not_mem_groundwork (q := .startWorkers c') rfl c (mainQueue past)
        retryArguments
      have hlater : Step.startWorkers c' ∉ admission c ++ shutdown c := by
        simp [admission, shutdown, publisherPreparation]
      rw [hknown.plan_eq] at planned
      obtain ⟨m, hm⟩ := prefix_of_not_mem planned hground
      rw [← List.append_assoc] at planned
      have hstart := prefix_left_of_not_mem planned hlater
      rw [← hm, List.append_assoc, List.prefix_append_right_inj] at hstart
      cases m with
      | nil =>
        obtain ⟨hc, -⟩ := List.cons_prefix_cons.1 hstart
        cases hc
        exact ⟨c', retryArguments, hknown, rfl, by rw [← hm, List.append_nil]⟩
      | cons q m => exact absurd hstart.length_le (by simp)

end Placed

/-! ### The workers in every state -/

open Dialogue (Path)

/-- What is so of the workers of a service after some steps. -/
structure Crew.Settled (k : Crew) (past : Past) (impatient : Bool) : Prop where
  logged : Worker.Logged k.config.processing k.config.workers.count.toNat k.pool k.log
  started : ⟨.startWorkers k.config, ()⟩ ∈ past
  cancelled : ⟨.cancelWorkers, ()⟩ ∈ past → k.pool.cancelled = true
  /-- Once the service has waited for them, they have ended, or its patience has. -/
  awaited : ∀ grace, ⟨.awaitWorkers grace, ()⟩ ∈ past → k.hasEnded = true ∨ impatient = true

/-- What is so of a service with its workers. -/
structure Running.Sound (s : Running) : Prop where
  path : Path run s.past s.rest
  settled : ∀ k, s.around.crew = some k → k.Settled s.past s.around.impatient
  /-- The workers are there once they have been started. -/
  present : ∀ c, ⟨.startWorkers c, ()⟩ ∈ s.past → ∃ k, s.around.crew = some k

theorem Running.sound_start : Running.start.Sound where
  path := .refl _
  settled := nofun
  present := nofun

/-- A step that is not the last one was taken before. -/
theorem mem_of_mem_snoc {past : Past} {x y : (q : Step) × q.Answer} (h : y ∈ past ++ [x])
    (hne : x.1 ≠ y.1) : y ∈ past := by
  rcases List.mem_append.1 h with h | h
  · exact h
  · exact absurd (congrArg Sigma.fst (List.mem_singleton.1 h)).symm hne

namespace Crew.Settled

variable {k : Crew} {past : Past} {impatient : Bool}

/-- A step that is none of the workers' leaves them as they are. -/
theorem snoc (h : k.Settled past impatient) {x : (q : Step) × q.Answer}
    (hcancel : x.1 ≠ .cancelWorkers) (hawait : ∀ grace, x.1 ≠ .awaitWorkers grace) :
    k.Settled (past ++ [x]) impatient where
  logged := h.logged
  started := List.mem_append_left _ h.started
  cancelled hmem := h.cancelled (mem_of_mem_snoc hmem hcancel)
  awaited grace hmem := h.awaited grace (mem_of_mem_snoc hmem (hawait grace))

/-- The token is cancelled. -/
theorem cancel (h : k.Settled past impatient) :
    k.cancel.Settled (past ++ [⟨.cancelWorkers, ()⟩]) impatient where
  logged := h.logged.step .cancel
  started := List.mem_append_left _ h.started
  cancelled _ := rfl
  awaited grace hmem := h.awaited grace (mem_of_mem_snoc hmem nofun)

/-- The service has waited for the workers. -/
theorem await {grace : Duration} (h : k.Settled past impatient) {impatient' : Bool}
    (hended : k.hasEnded = true ∨ impatient' = true) :
    k.Settled (past ++ [⟨.awaitWorkers grace, ()⟩]) impatient' where
  logged := h.logged
  started := List.mem_append_left _ h.started
  cancelled hmem := h.cancelled (mem_of_mem_snoc hmem nofun)
  awaited _ _ := hended

/-- Workers that have just started are settled, as the groundwork is no more than that. -/
theorem start {c c' : Config} {queue : String} {retryArguments : Amqp.Table}
    (h : past.map Sigma.fst = groundwork c' queue retryArguments) :
    (Crew.start c).Settled (past ++ [⟨.startWorkers c, ()⟩]) impatient where
  logged := .start
  started := List.mem_append_right _ (List.mem_singleton.2 rfl)
  cancelled hmem :=
    (not_mem_groundwork rfl c' queue retryArguments
      (h ▸ List.mem_map_of_mem (mem_of_mem_snoc hmem nofun))).elim
  awaited _ hmem :=
    (not_mem_groundwork rfl c' queue retryArguments
      (h ▸ List.mem_map_of_mem (mem_of_mem_snoc hmem nofun))).elim

end Crew.Settled

/-- Workers that have ended do nothing any more. -/
theorem Crew.hasEnded_of_move {k : Crew} {entry : Worker.Entry} {pool : Worker.Pool}
    (h : k.hasEnded = true) (hmove : Worker.Move k.config.processing k.pool entry pool) :
    pool.workers = k.pool.workers := by
  cases hmove with
  | cancel => rfl
  | deed i present turn =>
    have hended := List.all_eq_true.1 h _ (List.mem_of_getElem? present)
    cases turn <;> cases hended

/-- What the workers do leaves them settled. -/
theorem Crew.Settled.work {k : Crew} {past : Past} {impatient : Bool} {entry : Worker.Entry}
    {pool : Worker.Pool} (h : k.Settled past impatient)
    (hmove : Worker.Move k.config.processing k.pool entry pool) :
    Crew.Settled ⟨k.config, pool, k.log ++ [entry]⟩ past impatient where
  logged := h.logged.step hmove
  started := h.started
  cancelled hmem := by rw [hmove.cancelled_eq, h.cancelled hmem, Bool.true_or]
  awaited grace hmem := by
    refine (h.awaited grace hmem).imp_left fun hended => ?_
    rw [Crew.hasEnded, Crew.hasEnded_of_move hended hmove]
    exact hended

namespace Running

variable {s s' : Running}

/-- A step of the service keeps everything sound. -/
theorem Sound.main {q : Step} {next : q.Answer → Life (Except Failure Unit)} {answer : q.Answer}
    {w : Surroundings} (h : s.Sound) (hasks : s.rest = .ask q next)
    (hreacts : Reacts s.around q answer w) :
    Running.Sound ⟨next answer, s.past ++ [⟨q, answer⟩], w⟩ := by
  have hpath := h.path
  rw [hasks] at hpath
  cases hreacts with
  | start c =>
    obtain ⟨c', retryArguments, -, -, hground⟩ := (course_of_path hpath).start_eq
    refine ⟨hpath.snoc (), fun k hk => ?_, fun _ _ => ⟨_, rfl⟩⟩
    cases hk
    exact .start hground
  | stop cause reason =>
    exact ⟨hpath.snoc cause, fun k hk => (h.settled k hk).snoc nofun nofun,
      fun c hmem => h.present c (mem_of_mem_snoc hmem nofun)⟩
  | cancel =>
    refine ⟨hpath.snoc (), fun k hk => ?_, fun c hmem => ?_⟩
    · obtain ⟨k₀, hk₀, rfl⟩ := Option.map_eq_some_iff.1 hk
      exact (h.settled k₀ hk₀).cancel
    · obtain ⟨k, hk⟩ := h.present c (mem_of_mem_snoc hmem nofun)
      exact ⟨k.cancel, congrArg (Option.map Crew.cancel) hk⟩
  | joined grace ended =>
    exact ⟨hpath.snoc (), fun k hk => (h.settled k hk).await (.inl (ended k hk)),
      fun c hmem => h.present c (mem_of_mem_snoc hmem nofun)⟩
  | expired grace =>
    exact ⟨hpath.snoc (), fun k hk => (h.settled k hk).await (.inr rfl),
      fun c hmem => h.present c (mem_of_mem_snoc hmem nofun)⟩
  | other q answer hother =>
    refine ⟨hpath.snoc answer, fun k hk => (h.settled k hk).snoc ?_ ?_, fun c hmem => ?_⟩
    · rintro rfl
      cases hother
    · rintro grace rfl
      cases hother
    · refine h.present c (mem_of_mem_snoc hmem ?_)
      rintro rfl
      cases hother

/-- Everything that can happen keeps everything sound. -/
theorem Sound.next (h : s.Sound) (hnext : Next s s') : s'.Sound := by
  cases hnext with
  | main asks reacts => exact h.main asks reacts
  | work present move =>
    refine ⟨h.path, fun k hk => ?_, fun _ _ => ⟨_, rfl⟩⟩
    cases hk
    exact (h.settled _ present).work move

/-- **In every state the service is on its way and its workers are settled.** -/
theorem Reachable.sound (h : Reachable s) : s.Sound := by
  induction h with
  | start => exact sound_start
  | step _ hnext ih => exact ih.next hnext

/-- A service can go on along any path on which nothing concerns the workers. -/
theorem Reachable.along {d d' : Life (Except Failure Unit)} {past l : Past} {w : Surroundings}
    (h : Reachable ⟨d, past, w⟩) (hpath : Path d l d')
    (hl : ∀ x ∈ l, x.1.concernsWorkers = false) : Reachable ⟨d', past ++ l, w⟩ := by
  induction hpath generalizing past with
  | refl d =>
    rw [List.append_nil]
    exact h
  | @ask q next answer l d _ ih =>
    rw [List.forall_mem_cons] at hl
    rw [List.append_cons]
    exact ih (h.step (.main rfl (.other q answer hl.1))) hl.2

end Running

end Service

end Courier
