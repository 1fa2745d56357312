import Courier.Proofs.Service.Opening

/-!
# The end of the service

A service that has started its workers and ends by winding itself down has cancelled their token
and has waited for all of them to end, or for as long as it has patience.  A service that cannot
open the channel of the publisher or bind its port ends at once, and whatever its workers are doing
ends with it.

* `Service.Running.Staffed` : what the service promises about its workers.
* `Service.staffed_run` : **the workers stop cleanly and as a whole.**
* `Service.ways_to_end` : **how a service with workers can end.**
* `Service.ways_to_end_unsettled` : a service that ends while a message is in nobody's hands.
-/

namespace Courier

namespace Service

open Dialogue (Path)

variable {s : Running} {past before : Past} {rest : Life (Except Failure Unit)} {c : Config}
  {result : Except Failure Unit}

/-- If a step fails after the workers have started, it is one of the later steps. -/
theorem Course.fails_later (h : Course past rest) (hstarted : ⟨.startWorkers c, ()⟩ ∈ past)
    {x : (q : Step) × q.Answer} (hx : x ∈ past) (hfailed : x.1.failed x.2 = true) :
    x.1 ∈ admission c ++ shutdown c := by
  obtain ⟨l, l', rfl⟩ := List.append_of_mem hx
  obtain ⟨rfl, -⟩ := h.halts rfl hfailed
  -- the failed step is the last one, so the workers have started before
  have hmem : ⟨.startWorkers c, ()⟩ ∈ l := by
    refine mem_of_mem_snoc hstarted fun heq => ?_
    obtain ⟨q, answer⟩ := x
    cases heq
    cases hfailed
  obtain ⟨before, after, rfl⟩ := List.append_of_mem hmem
  obtain ⟨retryArguments, hknown, -⟩ := h.confirmed_groundwork (List.append_assoc ..)
  have hplanned := h.planned
  rw [hknown.plan_eq, List.map_append, ← List.append_assoc] at hplanned
  by_contra hlater
  have hground := prefix_left_of_not_mem hplanned hlater
  have hearlier := prefix_left_of_not_mem hground fun heq => by
    rw [List.mem_singleton] at heq
    obtain ⟨q, answer⟩ := x
    cases heq
    cases hfailed
  exact not_mem_groundwork (q := .startWorkers c) rfl _ _ _ (hearlier.subset (by simp))

/-! ### The workers -/

/-- Whether a step prepares a worker. -/
def Step.preparesWorker : Step → Bool
  | .broker (.openChannel (.worker _)) => true
  | .broker (.call (.worker _) _) => true
  | _ => false

/-- What a service promises about its workers. -/
structure Running.Staffed (s : Running) : Prop where
  /-- Nobody is at work before everybody was prepared. -/
  prepared : ∀ k, s.around.crew = some k →
    Confirmed (preparations k.config (mainQueue s.past)) s.past
  /-- If the preparation of a worker fails, none is started. -/
  refused : ∀ x ∈ s.past, x.1.preparesWorker = true → x.1.failed x.2 = true →
    s.around.crew = none
  /-- There are as many workers as were asked for. -/
  complete : ∀ k, s.around.crew = some k →
    k.pool.workers.length = k.config.workers.count.toNat
  /-- The workers go by the rules: deliveries are taken with the token alive, handled once each and
  to the end, and whoever has left has done so with the token cancelled. -/
  regular : ∀ k, s.around.crew = some k → Worker.Regular k.config.processing k.pool k.log
  /-- Once the token is cancelled, no worker ever takes a delivery again. -/
  final : ∀ k, s.around.crew = some k → k.pool.cancelled = true → ∀ pool more,
    Worker.Logged k.config.processing k.config.workers.count.toNat pool (k.log ++ more) →
    ∀ entry ∈ more, entry.takes = false

/-- No worker is prepared after the workers have started. -/
theorem not_preparesWorker {q : Step} (hq : q ∈ admission c ++ shutdown c) :
    q.preparesWorker = false := by
  simp only [admission, publisherPreparation, Publishing.preparation, shutdown, List.map_cons,
    List.map_nil, List.cons_append, List.nil_append, List.mem_cons, List.not_mem_nil,
    or_false] at hq
  rcases hq with rfl | rfl | rfl | rfl | rfl | rfl | rfl | rfl | rfl | rfl | rfl | rfl <;> rfl

/-- If the preparation of a worker has failed, the workers have not started. -/
theorem Course.not_started (h : Course past rest) {x : (q : Step) × q.Answer} (hx : x ∈ past)
    (hprepares : x.1.preparesWorker = true) (hfailed : x.1.failed x.2 = true) :
    ⟨.startWorkers c, ()⟩ ∉ past := fun hstarted =>
  Bool.false_ne_true ((not_preparesWorker (h.fails_later hstarted hx hfailed)).symm.trans hprepares)

/-- The life of the service from the start of its workers. -/
def launch (c : Config) : Life (Except Failure Unit) :=
  attempt .broker (withBroker (Amqp.openConfirmChannel .publisher)) fun _ =>
  .ask (.startPublisher c) fun _ =>
  attempt (.port c.serverPort) (.ask (.bindPort c.serverPort) .done) fun (_ : Unit) =>
  .ask .serve fun _ =>
  .ask .awaitStop (windDown c)

/-- The only worker of a service handles its delivery along any path. -/
theorem Running.Reachable.handling {past : Past} {impatient : Bool} {tag : UInt64}
    {d d' : Processing.Task} {l : List ((a : Processing.Action) × a.Answer)}
    {log : List Worker.Entry} (hpath : Path d l d')
    (h : Running.Reachable ⟨rest, past, some ⟨c, ⟨false, [.handling tag d]⟩, log⟩, impatient⟩) :
    Running.Reachable ⟨rest, past, some ⟨c, ⟨false, [.handling tag d']⟩,
      log ++ l.map fun x => .deed 0 (.handle x.1 x.2)⟩, impatient⟩ := by
  induction hpath generalizing log with
  | refl d =>
    rw [List.map_nil, List.append_nil]
    exact h
  | @ask a next answer l d _ ih =>
    rw [List.map_cons, List.append_cons]
    have acted := h.step (.work rfl (.deed 0 rfl (.handle tag a next answer)))
    exact ih acted

open Pipeline (modest noticed notice process_noticed)

/-- What a worker has done with a message that it could not deliver when it is about to publish the
retry. -/
def released : List ((a : Processing.Action) × a.Answer) :=
  [⟨.count .received, ()⟩, ⟨.send "device" notice, ⟨0, .error (.rejected 503 "")⟩⟩,
    ⟨.count .deliveryFailure, ()⟩, ⟨.settle .ack, .ok ()⟩]

theorem path_released : Path (Processing.process modest.processing noticed) released
    ((Processing.republish modest.processing noticed 1).bind Processing.report) := by
  rw [process_noticed]
  exact .ask <| .ask <| .ask <| .ask <| .refl _

/-- As soon as the workers have started, one of them can acknowledge a message for its retry. -/
theorem exists_released : ∃ past log, Running.Reachable ⟨launch modest, past, some ⟨modest,
    ⟨false, [.handling 1 ((Processing.republish modest.processing noticed 1).bind
      Processing.report)]⟩, log⟩, false⟩ := by
  have prepared := Running.Reachable.start.along (path_prepared (.ok ())) (by decide)
  have started := prepared.step (.main rfl (.start modest))
  have taken := started.step (.work rfl (.deed 0 rfl (.take 1 noticed rfl)))
  exact ⟨_, _, taken.handling path_released⟩

/-- **The workers stop cleanly and as a whole.** -/
theorem staffed_run (h : s.Reachable) : s.Staffed := by
  have hsound := h.sound
  have hcourse := course_of_path hsound.path
  constructor
  case prepared =>
    intro k hk q hq
    obtain ⟨retryArguments, -, hconfirmed⟩ := hsound.confirmed_groundwork hk
    exact hconfirmed q
      (List.mem_append_right _ (List.mem_append_right _ (List.mem_cons_of_mem _ hq)))
  case refused =>
    intro x hx hprepares hfailed
    cases hk : s.around.crew with
    | none => rfl
    | some k =>
      have hstarted := (hsound.settled k hk).started
      exact absurd hstarted (hcourse.not_started hx hprepares hfailed)
  case complete => exact fun k hk => (hsound.settled k hk).logged.length
  case regular => exact fun k hk => (hsound.settled k hk).logged.regular
  case final =>
    intro k hk hcancelled pool more hlogged entry hentry
    obtain ⟨before, after, rfl⟩ := List.append_of_mem hentry
    cases htakes : entry.takes with
    | false => rfl
    | true =>
      have hlive := hlogged.regular.taken (k.log ++ before) entry after (by simp) htakes
      rw [List.any_append, ← (hsound.settled k hk).logged.regular.cancelled, hcancelled] at hlive
      cases hlive

/-- The token is cancelled while a worker is about to publish a retry. -/
theorem staffed_run_released : ∃ (s : Running) (k : Crew), s.Reachable ∧ s.around.crew = some k ∧
    k.pool.cancelled = true ∧ k.pool.workers.length = 1 ∧ k.hasEnded = false ∧ s.Staffed := by
  obtain ⟨past, log, released⟩ := exists_released
  have cancelled := released.step (.work rfl .cancel)
  exact ⟨_, _, cancelled, rfl, rfl, rfl, rfl, staffed_run cancelled⟩

/-! ### The end -/

/-- Whether a step belongs to the end of the service. -/
def Step.endsService : Step → Bool
  | .awaitStop => true
  | .cancelWorkers => true
  | .awaitServer => true
  | .awaitPublisher => true
  | .awaitWorkers _ => true
  | .broker .isConnected => true
  | .broker (.disconnect _) => true
  | _ => false

/-- The startup does not end the service. -/
theorem endsService_startup {queue : String} {retryArguments : Amqp.Table} {q : Step}
    (hq : q ∈ startup c queue retryArguments) : q.endsService = false := by
  cases q with
  | broker question =>
    cases question with
    | connect | openChannel | isOpen | call => rfl
    | isConnected | disconnect =>
      simp [startup, groundwork, opening, declarations, preparations, Worker.preparation, onSetup,
        admission, publisherPreparation, Publishing.preparation] at hq
  | awaitStop | cancelWorkers | awaitServer | awaitPublisher | awaitWorkers =>
    simp [startup, groundwork, opening, declarations, preparations, onSetup, admission,
      publisherPreparation] at hq
  | _ => rfl

theorem endsService_shutdown {q : Step} (hq : q ∈ shutdown c) : q.endsService = true := by
  simp only [shutdown, List.mem_cons, List.not_mem_nil, or_false] at hq
  rcases hq with rfl | rfl | rfl | rfl | rfl | rfl | rfl <;> rfl

/-- The token is cancelled and the workers are waited for in the course of the farewell. -/
theorem farewell_subset (h : farewell c ⊆ past.map Sigma.fst) :
    ⟨.cancelWorkers, ()⟩ ∈ past ∧ ∃ grace, ⟨.awaitWorkers grace, ()⟩ ∈ past := by
  have hcancel : Step.cancelWorkers ∈ past.map Sigma.fst := h (by simp [farewell])
  have hawait : Step.awaitWorkers c.workers.grace ∈ past.map Sigma.fst := h (by simp [farewell])
  obtain ⟨⟨q, answer⟩, hcancelled, rfl⟩ := List.mem_map.1 hcancel
  obtain ⟨⟨q, answer⟩, hawaited, rfl⟩ := List.mem_map.1 hawait
  exact ⟨hcancelled, _, hawaited⟩

/-- Of the steps from the start of the workers on, three can fail before the end of the service. -/
theorem failed_admission {q : Step} (hq : q ∈ admission c) {answer : q.Answer}
    (hfailed : q.failed answer = true) : q ∈ publisherPreparation ∨ q = .bindPort c.serverPort := by
  rcases List.mem_append.1 hq with hq | hq
  · exact .inl hq
  · simp only [List.mem_cons, List.not_mem_nil, or_false] at hq
    rcases hq with rfl | rfl | rfl
    · cases hfailed
    · exact .inr rfl
    · cases hfailed

/-- Of the steps at the end of the service, only the last one can fail. -/
theorem failed_shutdown {q : Step} (hq : q ∈ shutdown c) {answer : q.Answer}
    (hfailed : q.failed answer = true) : q = .broker (.disconnect Amqp.shuttingDown) := by
  simp only [shutdown, List.mem_cons, List.not_mem_nil, or_false] at hq
  rcases hq with rfl | rfl | rfl | rfl | rfl | rfl | rfl
  case inr.inr.inr.inr.inr.inr => rfl
  all_goals cases hfailed

/-- A service that has ended because it could not open the channel of the publisher or bind its
port, and has not begun to wind itself down. -/
inductive Aborted (port : UInt16) : Past → Except Failure Unit → Prop where
  | fails {past : Past} {q : Step} {answer : q.Answer} (e : Failure)
      (opens : q ∈ publisherPreparation ∨ q = .bindPort port) (failed : q.failed answer = true)
      (silent : ∀ x ∈ past ++ [⟨q, answer⟩], x.1.endsService = false) :
    Aborted port (past ++ [⟨q, answer⟩]) (.error e)

/-- A service that fails while it admits requests has aborted. -/
theorem aborted_of_admission {queue : String} {retryArguments : Amqp.Table} {q : Step}
    {answer : q.Answer} (e : Failure)
    (hplanned : past.map Sigma.fst ++ [q] <+: startup c queue retryArguments ++ shutdown c)
    (hq : q ∈ admission c) (hfailed : q.failed answer = true) :
    Aborted c.serverPort (past ++ [⟨q, answer⟩]) (.error e) := by
  have hstartup : q ∈ startup c queue retryArguments :=
    List.mem_append_right _ (List.mem_cons_of_mem _ hq)
  have hopening := prefix_left_of_not_mem hplanned fun hend =>
    Bool.false_ne_true ((endsService_startup hstartup).symm.trans (endsService_shutdown hend))
  refine .fails e (failed_admission hq hfailed) hfailed fun x hx => ?_
  refine endsService_startup (hopening.subset ?_)
  simpa using List.mem_map_of_mem (f := Sigma.fst) hx

/-- A service that fails at its end has said farewell, as the connection is the last thing to go. -/
theorem farewell_of_shutdown {queue : String} {retryArguments : Amqp.Table} {q : Step}
    {answer : q.Answer}
    (hplanned : past.map Sigma.fst ++ [q] <+: startup c queue retryArguments ++ shutdown c)
    (hq : q ∈ shutdown c) (hfailed : q.failed answer = true) :
    farewell c ⊆ past.map Sigma.fst := by
  cases failed_shutdown hq hfailed
  have hlast : Step.broker (.disconnect Amqp.shuttingDown) ∉
      startup c queue retryArguments ++ farewell c := fun hmem => by
    rcases List.mem_append.1 hmem with hmem | hmem
    · cases endsService_startup hmem
    · simp [farewell] at hmem
  have hshutdown : shutdown c = farewell c ++
      [.broker .isConnected, .broker (.disconnect Amqp.shuttingDown)] := rfl
  rw [hshutdown, ← List.append_assoc] at hplanned
  exact fun step hstep =>
    (prefix_of_not_mem hplanned hlast).subset (List.mem_append_right _ hstep)

/-- If the workers have started and the service has ended, it has wound itself down, or it has
aborted. -/
theorem Course.ending (h : Course past (.done result)) (hstarted : ⟨.startWorkers c, ()⟩ ∈ past) :
    (⟨.cancelWorkers, ()⟩ ∈ past ∧ ∃ grace, ⟨.awaitWorkers grace, ()⟩ ∈ past) ∨
      Aborted c.serverPort past result := by
  have hcourse := h
  cases h with
  | under hunder =>
    cases hunder with
    | @fails l q answer e planned smooth refused =>
      have hlast : (⟨q, answer⟩ : (q : Step) × q.Answer) ∈ l ++ [⟨q, answer⟩] := by simp
      have hlater := hcourse.fails_later hstarted hlast refused
      obtain ⟨before, after, hpast⟩ := List.append_of_mem hstarted
      obtain ⟨retryArguments, hknown, -⟩ := hcourse.confirmed_groundwork hpast
      rw [plan_of_loaded hknown.loaded hknown.accepted] at planned
      rcases List.mem_append.1 hlater with hq | hq
      · exact .inr (aborted_of_admission e planned hq refused)
      · refine .inl (farewell_subset (c := c) ?_)
        rw [List.map_append]
        exact List.Subset.trans (farewell_of_shutdown planned hq refused)
          (List.subset_append_left _ _)
  | misfit c e loaded refused opened smooth =>
    have hmem := List.mem_map_of_mem (f := Sigma.fst) hstarted
    rw [opened] at hmem
    simp [opening] at hmem
  | ended c retryArguments result loaded accepted planned complete smooth =>
    exact .inl (farewell_subset fun q hq => complete.subset (List.mem_append_right _ hq))

/-- **How a service with workers can end.**  It has cancelled their token, and has waited for all of
them to end or as long as it has patience; or it ends because it could not open the channel of the
publisher or bind its port, without having told its workers. -/
theorem ways_to_end (h : s.Reachable) {k : Crew} (hk : s.around.crew = some k)
    (hdone : s.rest = .done result) :
    (k.pool.cancelled = true ∧ (k.hasEnded = true ∨ s.around.impatient = true)) ∨
      Aborted k.config.serverPort s.past result := by
  have hsettled := h.sound.settled k hk
  have hcourse := course_of_path h.sound.path
  rw [hdone] at hcourse
  rcases hcourse.ending hsettled.started with ⟨hcancelled, grace, hawaited⟩ | hfailed
  · exact .inl ⟨hsettled.cancelled hcancelled, hsettled.awaited grace hawaited⟩
  · exact .inr hfailed

/-- A service is told to stop and loses its patience while its worker is about to publish a
retry. -/
theorem ways_to_end_impatient : ∃ (s : Running) (k : Crew) (result : Except Failure Unit),
    s.Reachable ∧ s.around.crew = some k ∧ s.rest = .done result ∧ k.hasEnded = false ∧
    ((k.pool.cancelled = true ∧ (k.hasEnded = true ∨ s.around.impatient = true)) ∨
      Aborted k.config.serverPort s.past result) := by
  obtain ⟨past, log, released⟩ := exists_released
  have hopen : Path (launch modest)
      [⟨.broker (.openChannel .publisher), .ok ()⟩,
        ⟨.broker (.call .publisher .confirmSelect), .ok ()⟩, ⟨.startPublisher modest, ()⟩,
        ⟨.bindPort 80, .ok ()⟩, ⟨.serve, ()⟩] (.ask .awaitStop (windDown modest)) :=
    .ask <| .ask <| .ask <| .ask <| .ask <| .refl _
  have serving := released.along hopen (by decide)
  have told := serving.step (.main rfl (.stop .signal nofun))
  have cancelled := told.step (.main rfl .cancel)
  have drained := (cancelled.step (.main rfl (.other .awaitServer () rfl))).step
    (.main rfl (.other .awaitPublisher () rfl))
  have expired := drained.step (.main rfl (.expired modest.workers.grace))
  have ended := expired.step (.main rfl (.other (.broker .isConnected) false rfl))
  exact ⟨_, _, _, ended, rfl, rfl, rfl, ways_to_end ended rfl rfl⟩

/-- A service cannot bind its port while its worker is about to publish the retry of a message that
it has acknowledged. -/
theorem ways_to_end_unsettled : ∃ (s : Running) (k : Crew), s.Reachable ∧ s.around.crew = some k ∧
    s.rest = .done (.error (.port 80 none)) ∧ k.pool.cancelled = false ∧
    s.around.impatient = false ∧ k.pool.workers = [.handling 1
      ((Processing.republish modest.processing noticed 1).bind Processing.report)] := by
  obtain ⟨past, log, released⟩ := exists_released
  have hpath : Path (launch modest)
      [⟨.broker (.openChannel .publisher), .ok ()⟩,
        ⟨.broker (.call .publisher .confirmSelect), .ok ()⟩, ⟨.startPublisher modest, ()⟩,
        ⟨.bindPort 80, .error none⟩] (.done (.error (.port 80 none))) :=
    .ask <| .ask <| .ask <| .ask <| .refl _
  have ended := released.along hpath (by decide)
  exact ⟨_, _, ended, rfl, rfl, rfl, rfl, rfl⟩

end Service

end Courier
