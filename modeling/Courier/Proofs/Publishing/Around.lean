import Courier.Proofs.Lists
import Courier.Proofs.Publishing.Journal

/-!
# One caller among others

What the publisher's task and the other callers do around one caller cannot spoil what this caller
is told: it is told what the channel said to its own job, and it is never told that there is no
answer when the channel has taken the job.  The task may be cut short wherever it waits, which it
does not do between the answer of the channel and passing that answer on.

* `Publishing.Journal.Around` : what happens around a caller.
* `Publishing.Journal.Knows` : what a journal holds about a caller.
* `Publishing.Journal.Knows.around` : **what happens around a caller changes nothing about it.**
* `Publishing.Journal.Knows.answered_iff` : what a caller is told is what the channel said.
* `Publishing.Journal.Knows.exists_served` : a task that runs comes to every job.
-/

namespace Courier

namespace Publishing

namespace Journal

/-- Whether an event can happen around a caller who does nothing: others queue their jobs, and the
task is cut short only where it waits for something. -/
def Allows (j : Journal) (i : Nat) : Line.Event → Prop
  | .enqueue job => job.caller ≠ i
  | .abort => ∀ job result, j.line.work ≠ .answering job result
  | _ => True

/-- What happens around a caller who does nothing. -/
inductive Around (i : Nat) : Journal → Journal → Prop where
  /-- Nothing. -/
  | refl (j : Journal) : Around i j j
  /-- One event more. -/
  | step {j j' j'' : Journal} {e : Line.Event} (before : Around i j j') (allowed : j'.Allows i e)
      (happens : j'.step? e = some j'') : Around i j j''

/-- What a journal holds about a caller who queued some jobs. -/
structure Knows (i : Nat) (jobs : List Job) (j : Journal) : Prop where
  sound : j.Sound
  /-- At least one job may wait. -/
  room : 0 < j.line.capacity
  /-- These are the jobs of the caller. -/
  own : j.queued.filter (fun job => job.caller == i) = jobs
  /-- What the channel says about a job of the caller is passed on. -/
  passedOn : ∀ job result, (job, result) ∈ j.answered → job.caller = i →
    j.line.work = .answering job result ∨ (i, Line.receiptOf result) ∈ j.line.told

variable {i : Nat} {jobs : List Job} {job : Job} {j j' j'' : Journal} {e : Line.Event}

theorem Around.trans (h : Around i j j') (h' : Around i j' j'') : Around i j j'' := by
  induction h' with
  | refl => exact h
  | step _ allowed happens ih => exact ih.step allowed happens

/-- Nobody is told anything else later. -/
theorem Around.told_subset (h : Around i j j') : j.line.told ⊆ j'.line.told := by
  induction h with
  | refl => exact List.Subset.refl _
  | step _ _ happens ih => exact List.Subset.trans ih (told_subset_of_step? happens)

theorem Knows.start (c : Config) : Knows i [] (.start c) where
  sound := .start c
  room := Nat.lt_of_lt_of_le Nat.zero_lt_one (Nat.le_max_right _ _)
  own := rfl
  passedOn _ _ h := by cases h

namespace Knows

/-- What is not being passed on was passed on. -/
theorem told_of_answered {result : Except BrokerError Unit} (hk : Knows i jobs j)
    (hanswered : (job, result) ∈ j.answered) (hi : job.caller = i)
    (hwork : j.line.work ≠ .answering job result) :
    (i, Line.receiptOf result) ∈ j.line.told :=
  (hk.passedOn job result hanswered hi).resolve_left hwork

theorem passedOn_step (hk : Knows i jobs j) (ha : j.Allows i e) (h : j.step? e = some j') :
    ∀ job result, (job, result) ∈ j'.answered → job.caller = i →
      j'.line.work = .answering job result ∨ (i, Line.receiptOf result) ∈ j'.line.told := by
  intro job result hanswered hi
  cases move_of_step? h with
  | enqueue => exact hk.passedOn job result hanswered hi
  | close => exact hk.passedOn job result hanswered hi
  | take _ _ _ work => exact .inr (hk.told_of_answered hanswered hi (by rw [work]; exact nofun))
  | finish _ _ work => exact .inr (hk.told_of_answered hanswered hi (by rw [work]; exact nofun))
  | abort =>
    -- it was not in the middle of passing on an answer
    exact .inr (List.mem_append_right _ (hk.told_of_answered hanswered hi (ha job result)))
  | answer job' result' work =>
    rcases List.mem_append.1 hanswered with hbefore | hnow
    · exact .inr (hk.told_of_answered hbefore hi (by rw [work]; exact nofun))
    · -- this is the answer that is passed on next
      cases List.mem_singleton.1 hnow
      exact .inl rfl
  | tell job' result' work =>
    rcases hk.passedOn job result hanswered hi with hwork | htold
    · cases work.symm.trans hwork
      rw [← hi]
      exact .inr List.mem_cons_self
    · exact .inr (List.mem_cons_of_mem _ htold)

theorem own_step (hk : Knows i jobs j) (ha : j.Allows i e) (h : j.step? e = some j') :
    j'.queued.filter (fun job => job.caller == i) = jobs := by
  cases move_of_step? h with
  | enqueue job =>
    have hforeign : ¬ (job.caller == i) = true := fun heq => ha (eq_of_beq heq)
    rw [List.filter_append, hk.own, List.filter_cons, if_neg hforeign, List.filter_nil,
      List.append_nil]
  | _ => exact hk.own

/-- **What happens around a caller changes nothing about it.** -/
theorem around (hk : Knows i jobs j) (h : Around i j j') : Knows i jobs j' := by
  induction h with
  | refl => exact hk
  | step _ allowed happens ih =>
    refine ⟨ih.sound.step happens, ?_, ih.own_step allowed happens,
      ih.passedOn_step allowed happens⟩
    rw [capacity_of_step? happens]
    exact ih.room

/-- A caller queues its first job. -/
theorem enqueue (hk : Knows i [] j) (hi : job.caller = i) (h : j.step? (.enqueue job) = some j') :
    Knows i [job] j' := by
  refine ⟨hk.sound.step h, ?_, ?_, ?_⟩
  · rw [capacity_of_step? h]
    exact hk.room
  · cases move_of_step? h with | enqueue =>
    rw [List.filter_append, hk.own, List.filter_cons, if_pos (beq_iff_eq.2 hi), List.filter_nil,
      List.nil_append]
  · cases move_of_step? h with | enqueue => exact hk.passedOn

/-! ### What a caller is told -/

theorem mem_jobs (hk : Knows i jobs j) (hjob : job ∈ j.queued) (hi : job.caller = i) :
    job ∈ jobs := by
  rw [← hk.own]
  exact List.mem_filter.2 ⟨hjob, beq_iff_eq.2 hi⟩

/-- The channel is given no other jobs of a caller. -/
theorem handed_sublist (hk : Knows i jobs j) :
    (j.handed.filter fun job => job.caller == i).Sublist jobs := by
  rw [← hk.own]
  exact hk.sound.handed_prefix.sublist.filter _

theorem mem_jobs_of_answered {result : Except BrokerError Unit} (hk : Knows i jobs j)
    (hanswered : (job, result) ∈ j.answered) (hi : job.caller = i) : job ∈ jobs := by
  have hhanded := hk.sound.answered_prefix.subset (List.mem_map_of_mem hanswered)
  exact hk.mem_jobs (hk.sound.handed_prefix.subset hhanded) hi

/-- A caller with one job is told one thing only, and then the job is finished. -/
theorem told_unique {r r' : Receipt} (hk : Knows i [job] j) (h : (i, r) ∈ j.line.told)
    (h' : (i, r') ∈ j.line.told) : r = r' ∧ i ∉ j.line.unfinished.map Job.caller := by
  have hcount : (j.queued.map Job.caller).count i = 1 := by
    rw [List.count, List.countP_map, List.countP_eq_length_filter]
    exact congrArg List.length hk.own
  rw [hk.sound.owed.count_eq, List.count_append] at hcount
  -- the one job is either told of or unfinished
  have htold : 0 < (j.line.told.map Prod.fst).count i :=
    List.count_pos_iff.2 (List.mem_map_of_mem h)
  constructor
  · have hone : j.line.told.countP (fun t => t.1 == i) ≤ 1 := by
      rw [List.count, List.countP_map] at hcount
      exact Nat.le_trans (Nat.le_add_right _ _) (Nat.le_of_eq hcount)
    exact congrArg Prod.snd (eq_of_countP_key hone h h' rfl rfl)
  · rw [← List.count_eq_zero]
    omega

/-- What a caller with one job is told is what the channel said about the job. -/
theorem answered_iff {r : Receipt} {result : Except BrokerError Unit} (hk : Knows i [job] j)
    (hi : job.caller = i) (htold : (i, r) ∈ j.line.told) :
    (job, result) ∈ j.answered ↔ r = Line.receiptOf result := by
  constructor
  · intro hanswered
    rcases hk.passedOn job result hanswered hi with hwork | hpassed
    · -- a job that is being answered is not finished
      refine absurd ?_ (hk.told_unique htold htold).2
      rw [Line.unfinished, hwork, ← hi]
      exact List.mem_cons_self
    · exact (hk.told_unique htold hpassed).1
  · intro hr
    rcases hk.sound.honest i r htold with ⟨hlost, -⟩ | ⟨job', result', hanswered, hi', hr'⟩
    · rw [hr] at hlost
      cases result <;> cases hlost
    · rw [hr] at hr'
      rw [Line.receiptOf_inj.1 hr', ← List.mem_singleton.1 (hk.mem_jobs_of_answered hanswered hi')]
      exact hanswered

end Knows

/-! ### A task that runs -/

theorem Around.move (before : Around i j j') (h : Move j' e j'') (allowed : j'.Allows i e) :
    Around i j j'' := before.step allowed (step?_of_move h)

/-- The task gets rid of what it is busy with. -/
theorem exists_idle (i : Nat) (j : Journal) :
    ∃ j', Around i j j' ∧ j'.line = { j.line with work := .nothing, told := j'.line.told } := by
  cases work : j.line.work with
  | nothing => exact ⟨j, .refl j, by rw [← work]⟩
  | answering job result => exact ⟨_, (Around.refl j).move (.tell job result work) trivial, rfl⟩
  | offering job =>
    have answered := (Around.refl j).move (i := i) (.answer job (.ok ()) work) trivial
    exact ⟨_, answered.move (.tell job (.ok ()) rfl) trivial, rfl⟩

/-- The task comes to the end of its queue. -/
theorem exists_drained (i : Nat) (running : j.line.phase = .running) :
    ∃ j', Around i j j' ∧
      j'.line = { j.line with waiting := [], work := .nothing, told := j'.line.told } := by
  generalize hwaiting : j.line.waiting = waiting
  induction waiting generalizing j with
  | nil =>
    obtain ⟨j', hidle, hline⟩ := exists_idle i j
    exact ⟨j', hidle, by rw [hline, ← hwaiting]⟩
  | cons job rest ih =>
    obtain ⟨idle, hidle, hline⟩ := exists_idle i j
    have hwaiting' : idle.line.waiting = job :: rest := by rw [hline, hwaiting]
    have taken := hidle.move
      (.take job rest (by rw [hline, running]) (by rw [hline]) hwaiting') trivial
    obtain ⟨j', hdrained, hline'⟩ := ih
      (j := { idle with
        line := { idle.line with waiting := rest, work := .offering job }
        handed := idle.handed ++ [job] })
      (by rw [hline, running]) rfl
    refine ⟨j', taken.trans hdrained, ?_⟩
    rw [hline', hline]

theorem exists_told (i : Nat) (running : j.line.phase = .running) (work : j.line.work = .nothing)
    (waiting : j.line.waiting = [job]) (result : Except BrokerError Unit) :
    ∃ j', Around i j j' ∧ (job.caller, Line.receiptOf result) ∈ j'.line.told := by
  have taken := (Around.refl j).move (i := i) (.take job [] running work waiting) trivial
  have answered := taken.move (.answer job result rfl) trivial
  exact ⟨_, answered.move (.tell job result rfl) trivial, List.mem_cons_self⟩

/-- A task that runs and takes jobs comes to the job of a caller, whatever the channel says to
it. -/
theorem Knows.exists_served (hk : Knows i jobs j) (running : j.line.phase = .running)
    (isOpen : j.line.isOpen = true) (m : Amqp.Outgoing) (result : Except BrokerError Unit) :
    ∃ j₁ j₂ j₃, Around i j j₁ ∧ j₁.step? (.enqueue ⟨i, m⟩) = some j₂ ∧ Around i j₂ j₃ ∧
      (i, Line.receiptOf result) ∈ j₃.line.told := by
  obtain ⟨j₁, hdrained, hline⟩ := exists_drained i running
  have running₁ : j₁.line.phase = .running := by rw [hline, running]
  have work₁ : j₁.line.work = .nothing := by rw [hline]
  have waiting₁ : j₁.line.waiting = [] := by rw [hline]
  have room₁ : j₁.line.waiting.length < j₁.line.capacity := by
    rw [hline]
    exact hk.room
  have queued := step?_of_move (.enqueue ⟨i, m⟩ running₁ (by rw [hline, isOpen]) room₁)
  obtain ⟨j₃, hserved, htold⟩ := exists_told i
    (j := { j₁ with
      line := { j₁.line with waiting := j₁.line.waiting ++ [⟨i, m⟩] }
      queued := j₁.queued ++ [⟨i, m⟩] })
    running₁ work₁ (congrArg (· ++ [(⟨i, m⟩ : Job)]) waiting₁) result
  exact ⟨j₁, _, j₃, hdrained, queued, hserved, htold⟩

end Journal

end Publishing

end Courier
