import Courier.Proofs.Service.Running
import Courier.Proofs.Topology.Again
import Courier.Publishing.Line

/-!
# The numbers of a configuration

A valid configuration has positive numbers, but three of them are handed on to components that have
an upper limit as well.  The delay of retries becomes a signed integer, which the declaration of the
topology sees to before it asks for anything; the buffer of the publisher becomes the room of a
queue between two tasks, which is made when the publisher starts, and the number of workers that of
a list, which is made before the first of those workers is prepared that start later.  Whether the
queue and the list can be made at all depends on nothing but these numbers.

* `Service.Blameless` : results for which the delay is not to blame.
* `Service.blameless_of_path` : a delay that can be one is never to blame.
* `Service.misfit_of_path` : one that cannot be one ends the service as soon as it is connected.
* `Service.Course.started` : workers and publisher start with the configuration that was loaded.
* `Config.limits_of_validate` : **what becomes of the numbers of a valid configuration.**
* `Config.boundless_beyond_limits` : a valid one whose numbers are all too large.
-/

namespace Courier

namespace Topology

open Dialogue (Yields)

variable {c : Config} {arguments : Amqp.Table}

/-- A delay of too many milliseconds makes no arguments of the retry queue. -/
theorem retryQueueArguments_of_large (h : 9223372036854775808 ≤ c.retryDelay.millis) :
    retryQueueArguments c = .error (.invalid "retry delay does not fit in i64 ms") := by
  rw [retryQueueArguments, timeToLive, if_pos h]
  rfl

/-- The delay is not to blame for what the broker refuses. -/
theorem refused_ne_invalid (d : Declaration) (reason : Reason) (problem : String) :
    d.refused reason ≠ .invalid problem := by
  cases d <;> nofun

theorem yields_declaring {α : Type} {d : Declaration}
    {next : String → Declaring (Except TopologyError α)}
    (h : ∀ name, (next name).Yields fun r => ∀ problem, r ≠ .error (.invalid problem)) :
    (declaring d next).Yields fun r => ∀ problem, r ≠ .error (.invalid problem) := by
  rintro (reason | name)
  · exact fun problem hr => refused_ne_invalid d reason problem (Except.error.inj hr)
  · exact h name

/-- A delay that can be one is not to blame for any failure of the declarations. -/
theorem yields_declare (h : retryQueueArguments c = .ok arguments) :
    (declare c).Yields fun r => ∀ problem, r ≠ .error (.invalid problem) := by
  simp only [declare, h]
  refine yields_declaring fun _ => yields_declaring fun _ => yields_declaring fun _ => ?_
  refine yields_declaring fun _ => yields_declaring fun _ => ?_
  refine yields_declaring fun _ => yields_declaring fun _ => ?_
  refine yields_declaring fun _ => yields_declaring fun _ => ?_
  intro problem hr
  cases hr

end Topology

namespace Service

open Dialogue (Path Smooth Yields)

variable {c : Config} {arguments : Amqp.Table} {past : Past} {rest : Life (Except Failure Unit)}

/-- The delay of retries is not to blame for a result. -/
def Blameless {α : Type} (r : Except Failure α) : Prop :=
  ∀ problem, r ≠ .error (.topology (.invalid problem))

/-- The delay is not to blame for a section of the life if it is not for the failures of that. -/
theorem blameless_attempt {ε α β : Type} {P : Except ε α → Prop} {failure : ε → Failure}
    {d : Life (Except ε α)} {next : α → Life (Except Failure β)} (hd : d.Yields P)
    (hfailure : ∀ e, P (.error e) → ∀ problem, failure e ≠ .topology (.invalid problem))
    (hnext : ∀ a, (next a).Yields Blameless) : (attempt failure d next).Yields Blameless := by
  refine hd.bind fun r hr => ?_
  cases r with
  | error e => exact fun problem he => hfailure e hr problem (Except.error.inj he)
  | ok a => exact hnext a

/-- A section whose failures have nothing to do with the topology. -/
theorem blameless_other {ε α β : Type} {failure : ε → Failure} {d : Life (Except ε α)}
    {next : α → Life (Except Failure β)} (hfailure : ∀ e e', failure e ≠ .topology e')
    (hnext : ∀ a, (next a).Yields Blameless) : (attempt failure d next).Yields Blameless :=
  blameless_attempt (P := fun _ => True) (Dialogue.yields_of_forall (fun _ => trivial) d)
    (fun e _ _ => hfailure e _) hnext

theorem yields_windDown (c : Config) (cause : Cause) : (windDown c cause).Yields Blameless := by
  refine fun _ _ _ _ => blameless_other nofun fun _ => ?_
  cases cause <;> exact nofun

theorem yields_serve (c : Config) : (serve c).Yields Blameless :=
  fun _ => blameless_other nofun fun _ _ => blameless_other nofun fun _ _ cause =>
    yields_windDown c cause

/-- A delay that can be one is not to blame for the end of the service. -/
theorem yields_configured (h : Topology.retryQueueArguments c.topology = .ok arguments) :
    (configured c).Yields Blameless := by
  refine blameless_other nofun fun _ => blameless_other nofun fun _ => ?_
  refine blameless_attempt (((Topology.yields_declare h).expand _).expand _) ?_ fun topology => ?_
  · exact fun e he problem hinvalid => he problem (congrArg _ (Failure.topology.inj hinvalid))
  · exact blameless_other nofun fun _ => blameless_other nofun fun _ => yields_serve c

/-- A service that has loaded its configuration lives by it. -/
theorem path_configured (h : Path run past rest) (hloaded : loaded? past = some c) :
    ∃ tail, past = ⟨.loadConfig, .ok c⟩ :: tail ∧ Path (configured c) tail rest := by
  rw [run_eq] at h
  rcases h.of_ask with ⟨rfl, -⟩ | ⟨answer, tail, rfl, hrest⟩
  · cases hloaded
  cases (answer : Except Config.LoadError Config) with
  | error e => cases hloaded
  | ok c' =>
    cases hloaded
    exact ⟨tail, rfl, hrest⟩

/-- A delay that can be one is not to blame for the end of the service, whatever that is
answered. -/
theorem blameless_of_path {result : Except Failure Unit} (h : Path run past (.done result))
    (hloaded : loaded? past = some c)
    (haccepted : Topology.retryQueueArguments c.topology = .ok arguments) : Blameless result := by
  obtain ⟨tail, -, hrest⟩ := path_configured h hloaded
  exact hrest.yields (yields_configured haccepted)

/-- A service whose delay of retries cannot be one declares nothing, and ends with that once it is
connected. -/
theorem misfit_of_path {e : TopologyError} (h : Path run past rest)
    (hloaded : loaded? past = some c)
    (hrefused : Topology.retryQueueArguments c.topology = .error e) :
    past.map Sigma.fst <+: opening c ∧ (past.map Sigma.fst = opening c → Smooth Step.failed past →
      rest = .done (.error (.topology e))) := by
  have hcourse := course_of_path h
  have hplan := plan_of_misfit hloaded hrefused
  refine ⟨hplan ▸ hcourse.planned, fun hopened hsmooth => ?_⟩
  cases hcourse with
  | under hunder =>
    cases hunder with
    | asks planned smooth =>
      -- there is nothing left to ask
      rw [hplan, hopened] at planned
      exact absurd planned.length_le (by simp)
    | fails e planned smooth refused =>
      -- the last step failed, but none did
      have hlast := hsmooth _ (List.mem_append_right _ (List.mem_singleton_self _))
      exact (Bool.false_ne_true (hlast.symm.trans refused)).elim
  | misfit c' e' loaded refused opened smooth =>
    cases hloaded.symm.trans loaded
    cases hrefused.symm.trans refused
    rfl
  | ended c' retryArguments result loaded accepted planned complete smooth =>
    cases hloaded.symm.trans loaded
    cases hrefused.symm.trans accepted

/-- Workers and publisher start with the configuration that was loaded. -/
theorem Course.started {q : Step} {answer : q.Answer} {c' : Config} (h : Course past rest)
    (hloaded : loaded? past = some c) (hmem : ⟨q, answer⟩ ∈ past)
    (hq : q = .startWorkers c' ∨ q = .startPublisher c') : c' = c := by
  have hplan := h.mem_plan hmem
  have hearly : q.early = false := by
    rcases hq with rfl | rfl <;> rfl
  obtain ⟨c'', retryArguments, hknown⟩ := exists_known hplan hearly
  obtain rfl := Option.some.inj (hknown.loaded.symm.trans hloaded)
  rw [hknown.plan_eq] at hplan
  -- each of the two steps is in the plan once, and it is with that configuration
  rcases hq with rfl | rfl <;> simpa [groundwork, opening, declarations, preparations, onSetup,
    admission, shutdown, publisherPreparation] using hplan

end Service

/-! ### Rooms and lists -/

/-- The most jobs that a queue between two tasks can have room for. -/
def Publishing.Line.largestCapacity : Nat := 2305843009213693951

/-- The most octets that a list can take. -/
def Worker.largestList : Nat := 9223372036854775807

/-- The octets of a list with room for all prepared workers, each of which takes `size`. -/
def Worker.reserved (c : WorkerConfig) (size : Nat) : Nat := c.count.toNat * size

namespace Config

open Service (Blameless loaded? opening)
open Dialogue (Path Smooth)
open Publishing (Line)

variable {c : Config}

/-- What becomes of the numbers of a configuration.  A worker that is prepared takes `size` octets
of a list. -/
structure Limits (c : Config) (size : Nat) : Prop where
  /-- A delay that fits a signed integer of 64 bits makes the arguments of the retry queue. -/
  accepted : c.retryDelayMs.toNat < 9223372036854775808 →
    ∃ arguments, Topology.retryQueueArguments c.topology = .ok arguments
  /-- Such a delay is not to blame for the end of the service. -/
  blameless : c.retryDelayMs.toNat < 9223372036854775808 → ∀ past result,
    Path Service.run past (.done result) → loaded? past = some c → Blameless result
  /-- Any other delay is refused by name. -/
  refused : 9223372036854775808 ≤ c.retryDelayMs.toNat →
    Topology.retryQueueArguments c.topology =
      .error (.invalid "retry delay does not fit in i64 ms")
  /-- With such a delay, the service declares nothing, and ends with that once it is connected. -/
  halts : 9223372036854775808 ≤ c.retryDelayMs.toNat → ∀ past rest,
    Path Service.run past rest → loaded? past = some c →
    past.map Sigma.fst <+: opening c ∧
      (past.map Sigma.fst = opening c → Smooth Service.Step.failed past →
        rest = .done (.error (.topology (.invalid "retry delay does not fit in i64 ms"))))
  /-- The queue of the publisher has the room that is configured, and so it has some. -/
  room : (Line.start c.publishing).capacity = c.publishBuffer.toNat ∧
    1 ≤ (Line.start c.publishing).capacity
  /-- It can have that room exactly if the buffer is not too large. -/
  roomy : (Line.start c.publishing).capacity ≤ Line.largestCapacity ↔
    c.publishBuffer.toNat ≤ Line.largestCapacity
  /-- The workers have a list exactly if they take no room or are not too many. -/
  listed : Worker.reserved c.workers size ≤ Worker.largestList ↔
    size = 0 ∨ c.workerCount.toNat ≤ Worker.largestList / size
  /-- Whatever publisher starts, its queue is the one with that room. -/
  publisher : ∀ past rest, Path Service.run past rest → loaded? past = some c →
    ∀ c', ⟨.startPublisher c', ()⟩ ∈ past → Line.start c'.publishing = Line.start c.publishing
  /-- Whatever workers start, that list was made for them. -/
  workers : ∀ past rest, Path Service.run past rest → loaded? past = some c →
    ∀ c', ⟨.startWorkers c', ()⟩ ∈ past →
      Worker.reserved c'.workers size = Worker.reserved c.workers size

/-- The delay of a valid configuration can be one if it fits a signed integer of 64 bits. -/
theorem exists_arguments_of_validate (h : c.validate = .ok ())
    (hfits : c.retryDelayMs.toNat < 9223372036854775808) :
    ∃ arguments, Topology.retryQueueArguments c.topology = .ok arguments := by
  have hdelay : 0 < c.retryDelayMs.toNat :=
    Nat.pos_of_ne_zero fun hzero => (validate_eq_ok_iff.1 h).delay (UInt64.toNat_inj.1 hzero)
  rw [← Duration.millis_ofMillis c.retryDelayMs] at hfits hdelay
  rcases Topology.retryQueueArguments_cases c.topology with ⟨-, -, hok⟩ | ⟨hnot, -⟩
  · exact hok
  · exact (hnot ⟨hdelay, hfits⟩).elim

/-- **What becomes of the numbers of a valid configuration.** -/
theorem limits_of_validate (h : c.validate = .ok ()) (size : Nat) : c.Limits size := by
  have hbuffer : 0 < c.publishBuffer.toNat :=
    Nat.pos_of_ne_zero fun hzero => (validate_eq_ok_iff.1 h).buffer (UInt64.toNat_inj.1 hzero)
  have hmillis : c.topology.retryDelay.millis = c.retryDelayMs.toNat :=
    Duration.millis_ofMillis c.retryDelayMs
  have hrefused (hlarge : 9223372036854775808 ≤ c.retryDelayMs.toNat) :=
    Topology.retryQueueArguments_of_large (hmillis ▸ hlarge)
  have hroom : (Line.start c.publishing).capacity = c.publishBuffer.toNat := Nat.max_eq_left hbuffer
  constructor
  case accepted => exact exists_arguments_of_validate h
  case blameless =>
    intro hfits past result hpath hloaded
    obtain ⟨arguments, harguments⟩ := exists_arguments_of_validate h hfits
    exact Service.blameless_of_path hpath hloaded harguments
  case refused => exact hrefused
  case halts =>
    exact fun hlarge past rest hpath hloaded =>
      Service.misfit_of_path hpath hloaded (hrefused hlarge)
  case room => exact ⟨hroom, hroom ▸ hbuffer⟩
  case roomy => rw [hroom]
  case listed =>
    rcases Nat.eq_zero_or_pos size with rfl | hsize
    · exact iff_of_true (Nat.zero_le _) (.inl rfl)
    · rw [Nat.le_div_iff_mul_le hsize, or_iff_right (Nat.ne_of_gt hsize)]
      rfl
  case publisher =>
    intro past rest hpath hloaded c' hstarted
    rw [(Service.course_of_path hpath).started hloaded hstarted (.inr rfl)]
  case workers =>
    intro past rest hpath hloaded c' hstarted
    rw [(Service.course_of_path hpath).started hloaded hstarted (.inl rfl)]

/-- A valid configuration with a delay, a buffer and a number of workers that nothing can have. -/
def boundless : Config :=
  { standard "amqp://localhost" with
    retryDelayMs := 9223372036854775808
    publishBuffer := 2305843009213693952
    workerCount := 18446744073709551615 }

/-- Validation lets these numbers pass, and none of the three components takes them. -/
theorem boundless_beyond_limits : boundless.validate = .ok () ∧
    Topology.retryQueueArguments boundless.topology =
      .error (.invalid "retry delay does not fit in i64 ms") ∧
    Line.largestCapacity < (Line.start boundless.publishing).capacity ∧
    ∀ size, 0 < size → Worker.largestList < Worker.reserved boundless.workers size := by
  have hlarge : 9223372036854775808 ≤ boundless.topology.retryDelay.millis :=
    Nat.le_of_eq (Duration.millis_ofMillis boundless.retryDelayMs).symm
  refine ⟨rfl, Topology.retryQueueArguments_of_large hlarge, by decide, fun size hsize => ?_⟩
  have hcount : Worker.largestList < boundless.workers.count.toNat := by decide
  exact Nat.lt_of_lt_of_le hcount (Nat.le_mul_of_pos_right _ hsize)

/-- The standard numbers are small enough for everything, with workers of 256 octets each. -/
theorem limits_of_validate_standard : (standard "amqp://localhost").validate = .ok () ∧
    (∃ arguments, Topology.retryQueueArguments (standard "amqp://localhost").topology =
      .ok arguments) ∧
    (Line.start (standard "amqp://localhost").publishing).capacity ≤ Line.largestCapacity ∧
    Worker.reserved (standard "amqp://localhost").workers 256 ≤ Worker.largestList ∧
    (standard "amqp://localhost").Limits 256 := by
  have hlimits := limits_of_validate (c := standard "amqp://localhost") rfl 256
  exact ⟨rfl, hlimits.accepted (by decide), hlimits.roomy.2 (by decide),
    hlimits.listed.2 (.inr (by decide)), hlimits⟩

end Config

end Courier
