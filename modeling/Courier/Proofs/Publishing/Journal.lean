import Courier.Publishing.Line

/-!
# The journal of the publisher

A journal keeps beside the publisher's task the jobs that were queued and handed to the channel and
the answers of the channel, each in the order of time.  Whoever queues the jobs, these histories
agree with what the task holds.

* `Publishing.Journal.step?` : an event with its entry.
* `Publishing.Journal.Sound` : the jobs were handed out in the order of their queuing; those that
  are not handed out wait; all callers of queued jobs are told something or have an unfinished job;
  and nobody is told anything but the channel's answer to his job, unless the task was cut short.
* `Publishing.Journal.Sound.step` : **every event keeps a journal sound.**
-/

namespace Courier

namespace Publishing

/-- The job that the channel has not answered, if any. -/
def Work.offered : Work → List Job
  | .nothing => []
  | .offering job => [job]
  | .answering .. => []

/-- Whether an event is something that the task does by itself. -/
def Line.Event.isOwn : Line.Event → Bool
  | .enqueue _ => false
  | .take => true
  | .answer _ => true
  | .tell => true
  | .close => false
  | .finish => true
  | .abort => true

/-- The publisher's task and what happened to its jobs, the oldest first. -/
structure Journal where
  /-- The task. -/
  line : Line
  /-- The jobs that were queued. -/
  queued : List Job
  /-- The jobs whose messages the channel was given. -/
  handed : List Job
  /-- What the channel answered. -/
  answered : List (Job × Except BrokerError Unit)

theorem Line.receiptOf_inj {result result' : Except BrokerError Unit} :
    receiptOf result = receiptOf result' ↔ result = result' := by
  cases result <;> cases result' <;> simp [receiptOf]

namespace Journal

/-- The journal of a new task. -/
def start (c : Config) : Journal := ⟨.start c, [], [], []⟩

/-- The journal after an event that changed the task. -/
def record (j : Journal) (line : Line) : Line.Event → Journal
  | .enqueue job => { j with line := line, queued := j.queued ++ [job] }
  | .take => { j with line := line, handed := j.handed ++ line.work.offered }
  | .answer result =>
    { j with
      line := line
      answered := j.answered ++ j.line.work.offered.map fun job => (job, result) }
  | .tell => { j with line := line }
  | .close => { j with line := line }
  | .finish => { j with line := line }
  | .abort => { j with line := line }

/-- The journal after an event, if it can happen. -/
def step? (j : Journal) (e : Line.Event) : Option Journal :=
  (j.line.step? e).map fun line => j.record line e

/-- What an event does. -/
inductive Move (j : Journal) : Line.Event → Journal → Prop where
  /-- A job joins those that wait. -/
  | enqueue (job : Job) (running : j.line.phase = .running) (isOpen : j.line.isOpen = true)
      (room : j.line.waiting.length < j.line.capacity) :
      Move j (.enqueue job)
        { j with
          line := { j.line with waiting := j.line.waiting ++ [job] }
          queued := j.queued ++ [job] }
  /-- The oldest job goes to the channel. -/
  | take (job : Job) (rest : List Job) (running : j.line.phase = .running)
      (work : j.line.work = .nothing) (waiting : j.line.waiting = job :: rest) :
      Move j .take
        { j with
          line := { j.line with waiting := rest, work := .offering job }
          handed := j.handed ++ [job] }
  /-- The channel answers the job that it was given. -/
  | answer (job : Job) (result : Except BrokerError Unit) (work : j.line.work = .offering job) :
      Move j (.answer result)
        { j with
          line := { j.line with work := .answering job result }
          answered := j.answered ++ [(job, result)] }
  /-- The caller is told. -/
  | tell (job : Job) (result : Except BrokerError Unit)
      (work : j.line.work = .answering job result) :
      Move j .tell
        { j with
          line := { j.line with
            work := .nothing
            told := (job.caller, Line.receiptOf result) :: j.line.told } }
  /-- The last sender goes. -/
  | close : Move j .close { j with line := { j.line with isOpen := false } }
  /-- The task ends with nothing left. -/
  | finish (running : j.line.phase = .running) (isOpen : j.line.isOpen = false)
      (work : j.line.work = .nothing) (waiting : j.line.waiting = []) :
      Move j .finish { j with line := { j.line with phase := .finished } }
  /-- The task is cut short, and everybody who waits learns that there will be no answer. -/
  | abort (running : j.line.phase = .running) :
      Move j .abort
        { j with
          line := { j.line with
            phase := .aborted
            waiting := []
            work := .nothing
            told := j.line.unfinished.map (fun job => (job.caller, .unanswered)) ++ j.line.told } }

variable {j j' : Journal} {e : Line.Event}

/-- There is nothing else that an event can do. -/
theorem move_of_step? (h : j.step? e = some j') : Move j e j' := by
  obtain ⟨line, hline, rfl⟩ := Option.map_eq_some_iff.1 h
  cases e with
  | enqueue job =>
    obtain ⟨⟨running, isOpen, room⟩, hline⟩ := Option.ite_none_right_eq_some.1 hline
    cases hline
    exact .enqueue job running isOpen room
  | take =>
    simp only [Line.step?] at hline
    split at hline
    · next job rest running work waiting =>
      cases hline
      exact .take job rest running work waiting
    · cases hline
  | answer result =>
    simp only [Line.step?] at hline
    split at hline
    · next job work =>
      cases hline
      rw [record, work]
      exact .answer job result work
    · cases hline
  | tell =>
    simp only [Line.step?] at hline
    split at hline
    · next job result work =>
      cases hline
      exact .tell job result work
    · cases hline
  | close =>
    cases hline
    exact .close
  | finish =>
    simp only [Line.step?] at hline
    split at hline
    · next running isOpen work waiting =>
      cases hline
      exact .finish running isOpen work waiting
    · cases hline
  | abort =>
    obtain ⟨running, hline⟩ := Option.ite_none_right_eq_some.1 hline
    cases hline
    exact .abort running

/-- All of this can happen. -/
theorem step?_of_move (h : Move j e j') : j.step? e = some j' := by
  cases h with
  | enqueue job running isOpen room =>
    simp only [step?, Line.step?, running, isOpen, room, and_self, if_true, Option.map_some, record]
  | take job rest running work waiting =>
    simp only [step?, Line.step?, running, work, waiting, Option.map_some, record, Work.offered]
  | answer job result work =>
    simp only [step?, Line.step?, work, Option.map_some, record, Work.offered, List.map_cons,
      List.map_nil]
  | tell job result work => simp only [step?, Line.step?, work, Option.map_some, record]
  | close => rfl
  | finish running isOpen work waiting =>
    simp only [step?, Line.step?, running, isOpen, work, waiting, Option.map_some, record]
  | abort running => simp only [step?, Line.step?, running, if_true, Option.map_some, record]

/-! ### What an event leaves as it was -/

/-- Nobody is told anything else later. -/
theorem told_subset_of_step? (h : j.step? e = some j') : j.line.told ⊆ j'.line.told := by
  cases move_of_step? h with
  | tell => exact List.subset_cons_self _ _
  | abort => exact List.subset_append_right _ _
  | _ => exact List.Subset.refl _

/-- A task that was cut short stays so. -/
theorem aborted_of_step? (h : j.step? e = some j') (ha : j.line.phase = .aborted) :
    j'.line.phase = .aborted := by
  cases move_of_step? h with
  | finish running => rw [running] at ha; cases ha
  | abort => rfl
  | _ => exact ha

/-- What the task does by itself leaves the queued jobs alone. -/
theorem queued_of_own (he : e.isOwn = true) (h : j.step? e = some j') : j'.queued = j.queued := by
  cases move_of_step? h with
  | enqueue job => cases he
  | _ => rfl

/-- What the task does by itself does not close the line. -/
theorem isOpen_of_own (he : e.isOwn = true) (h : j.step? e = some j') :
    j'.line.isOpen = j.line.isOpen := by
  cases move_of_step? h with
  | close => cases he
  | _ => rfl

/-- The room for waiting jobs stays. -/
theorem capacity_of_step? (h : j.step? e = some j') : j'.line.capacity = j.line.capacity := by
  cases move_of_step? h <;> rfl

/-! ### What a journal keeps -/

/-- The histories agree with what the task holds. -/
structure Sound (j : Journal) : Prop where
  /-- A task that ended holds nothing. -/
  ended : j.line.phase ≠ .running → j.line.waiting = [] ∧ j.line.work = .nothing
  /-- A task that was not cut short ends only when nobody can queue anything more. -/
  shut : j.line.phase = .finished → j.line.isOpen = false
  /-- No more jobs wait than there is room for. -/
  room : j.line.waiting.length ≤ j.line.capacity
  /-- Every job that was queued was handed to the channel or waits, unless it was dropped. -/
  inOrder : ∃ dropped, j.queued = j.handed ++ j.line.waiting ++ dropped ∧
    (j.line.phase ≠ .aborted → dropped = [])
  /-- Every job that was handed to the channel was answered or is with it, unless it was lost. -/
  oneByOne : ∃ lost, j.handed = j.answered.map Prod.fst ++ j.line.work.offered ++ lost ∧
    (j.line.phase ≠ .aborted → lost = [])
  /-- Every caller of a queued job was told something or has a job that is not finished. -/
  owed : (j.queued.map Job.caller).Perm
    (j.line.told.map Prod.fst ++ j.line.unfinished.map Job.caller)
  /-- What a caller is about to be told is the answer to his job. -/
  due : ∀ job result, j.line.work = .answering job result → (job, result) ∈ j.answered
  /-- What a caller was told is the answer to his job, unless the task was cut short. -/
  honest : ∀ i r, (i, r) ∈ j.line.told → (r = .unanswered ∧ j.line.phase = .aborted) ∨
    ∃ job result, (job, result) ∈ j.answered ∧ job.caller = i ∧ r = Line.receiptOf result

theorem Sound.start (c : Config) : (Journal.start c).Sound where
  ended h := absurd rfl h
  shut h := by cases h
  room := Nat.zero_le _
  inOrder := ⟨[], rfl, fun _ => rfl⟩
  oneByOne := ⟨[], rfl, fun _ => rfl⟩
  owed := .nil
  due _ _ h := by cases h
  honest _ _ h := by cases h

namespace Sound

theorem enqueue {job : Job} (hs : j.Sound) (h : j.step? (.enqueue job) = some j') : j'.Sound := by
  cases move_of_step? h with | enqueue _ running _ room =>
  obtain ⟨dropped, hqueued, hdropped⟩ := hs.inOrder
  -- a job is dropped only when the task is cut short, so none is missing before this one
  have hnone : dropped = [] := hdropped (by rw [running]; decide)
  refine ⟨fun hend => absurd running hend, hs.shut, ?_, ⟨[], ?_, fun _ => rfl⟩, hs.oneByOne, ?_,
    hs.due, hs.honest⟩
  · rw [List.length_append]
    exact room
  · simp only [hqueued, hnone, List.append_nil, List.append_assoc]
  · have := hs.owed.append_right [job.caller]
    simpa only [Line.unfinished, List.map_append, List.map_cons, List.map_nil,
      List.append_assoc] using this

theorem take (hs : j.Sound) (h : j.step? .take = some j') : j'.Sound := by
  cases move_of_step? h with | take job rest running work waiting =>
  obtain ⟨dropped, hqueued, hdropped⟩ := hs.inOrder
  obtain ⟨lost, hhanded, hlost⟩ := hs.oneByOne
  have hnone : lost = [] := hlost (by rw [running]; decide)
  refine ⟨fun hend => absurd running hend, hs.shut, ?_, ⟨dropped, ?_, hdropped⟩,
    ⟨[], ?_, fun _ => rfl⟩, ?_, by rintro _ _ ⟨⟩, hs.honest⟩
  · have := hs.room
    rw [waiting, List.length_cons] at this
    exact Nat.le_of_succ_le this
  · simp only [hqueued, waiting, List.append_assoc, List.cons_append, List.nil_append]
  · simp only [hhanded, work, hnone, Work.offered, List.append_nil]
  · have := hs.owed
    rwa [Line.unfinished, work, waiting] at this

theorem answer {result : Except BrokerError Unit} (hs : j.Sound)
    (h : j.step? (.answer result) = some j') : j'.Sound := by
  cases move_of_step? h with | answer job _ work =>
  obtain ⟨lost, hhanded, hlost⟩ := hs.oneByOne
  -- a task that ended has no job with the channel
  have running : j.line.phase = .running := by
    refine Decidable.byContradiction fun hend => ?_
    rw [(hs.ended hend).2] at work
    cases work
  refine ⟨fun hend => absurd running hend, hs.shut, hs.room, hs.inOrder, ⟨lost, ?_, hlost⟩,
    ?_, ?_, ?_⟩
  · simp only [hhanded, work, Work.offered, List.map_append, List.map_cons, List.map_nil,
      List.append_nil]
  · have := hs.owed
    rwa [Line.unfinished, work] at this
  · intro _ _ hwork
    cases hwork
    exact List.mem_append_right _ (List.mem_singleton_self _)
  · intro i r htold
    rcases hs.honest i r htold with hlost | ⟨job, result, hmem, hi⟩
    · exact .inl hlost
    · exact .inr ⟨job, result, List.mem_append_left _ hmem, hi⟩

theorem tell (hs : j.Sound) (h : j.step? .tell = some j') : j'.Sound := by
  cases move_of_step? h with | tell job result work =>
  refine ⟨fun hend => ⟨(hs.ended hend).1, rfl⟩, hs.shut, hs.room, hs.inOrder, ?_, ?_,
    by rintro _ _ ⟨⟩, ?_⟩
  · have := hs.oneByOne
    rwa [work] at this
  · have := hs.owed
    rw [Line.unfinished, work] at this
    exact this.trans List.perm_middle
  · intro i r htold
    rcases List.mem_cons.1 htold with heq | htold
    · cases heq
      exact .inr ⟨job, result, hs.due job result work, rfl, rfl⟩
    · exact hs.honest i r htold

theorem close (hs : j.Sound) (h : j.step? .close = some j') : j'.Sound := by
  cases move_of_step? h with | close =>
  exact ⟨hs.ended, fun _ => rfl, hs.room, hs.inOrder, hs.oneByOne, hs.owed, hs.due, hs.honest⟩

theorem finish (hs : j.Sound) (h : j.step? .finish = some j') : j'.Sound := by
  cases move_of_step? h with | finish running isOpen work waiting =>
  have hrunning : j.line.phase ≠ .aborted := by rw [running]; decide
  obtain ⟨dropped, hqueued, hdropped⟩ := hs.inOrder
  obtain ⟨lost, hhanded, hlost⟩ := hs.oneByOne
  refine ⟨fun _ => ⟨waiting, work⟩, fun _ => isOpen, hs.room,
    ⟨dropped, hqueued, fun _ => hdropped hrunning⟩, ⟨lost, hhanded, fun _ => hlost hrunning⟩,
    hs.owed, hs.due, ?_⟩
  intro i r htold
  rcases hs.honest i r htold with ⟨-, haborted⟩ | hanswered
  · exact absurd haborted hrunning
  · exact .inr hanswered

theorem abort (hs : j.Sound) (h : j.step? .abort = some j') : j'.Sound := by
  cases move_of_step? h with | abort running =>
  obtain ⟨dropped, hqueued, -⟩ := hs.inOrder
  obtain ⟨lost, hhanded, -⟩ := hs.oneByOne
  refine ⟨fun _ => ⟨rfl, rfl⟩, by rintro ⟨⟩, Nat.zero_le _,
    ⟨j.line.waiting ++ dropped, ?_, fun h => absurd rfl h⟩,
    ⟨j.line.work.offered ++ lost, ?_, fun h => absurd rfl h⟩, ?_,
    by rintro _ _ ⟨⟩, ?_⟩
  · simp only [hqueued, List.append_nil, List.append_assoc]
  · simp only [hhanded, Work.offered, List.append_nil, List.append_assoc]
  · -- everybody whose job was not finished is told now
    refine hs.owed.trans ?_
    simp only [Line.unfinished, Work.job?, List.map_append, List.map_map, Function.comp_def,
      Option.toList_none, List.map_nil, List.append_nil]
    exact List.perm_append_comm
  · intro i r htold
    rcases List.mem_append.1 htold with hmem | htold
    · obtain ⟨job, -, heq⟩ := List.mem_map.1 hmem
      cases heq
      exact .inl ⟨rfl, rfl⟩
    · rcases hs.honest i r htold with ⟨hr, -⟩ | hanswered
      · exact .inl ⟨hr, rfl⟩
      · exact .inr hanswered

/-- **Every event keeps a journal sound.** -/
theorem step (hs : j.Sound) (h : j.step? e = some j') : j'.Sound := by
  cases e with
  | enqueue job => exact hs.enqueue h
  | take => exact hs.take h
  | answer result => exact hs.answer h
  | tell => exact hs.tell h
  | close => exact hs.close h
  | finish => exact hs.finish h
  | abort => exact hs.abort h

/-- The answers were given to the first of the queued jobs, in their order. -/
theorem answered_prefix (hs : j.Sound) : j.answered.map Prod.fst <+: j.handed := by
  obtain ⟨lost, hhanded, -⟩ := hs.oneByOne
  exact ⟨j.line.work.offered ++ lost, by rw [hhanded, List.append_assoc]⟩

/-- The channel was given the first of the queued jobs, in their order. -/
theorem handed_prefix (hs : j.Sound) : j.handed <+: j.queued := by
  obtain ⟨dropped, hqueued, -⟩ := hs.inOrder
  exact ⟨j.line.waiting ++ dropped, by rw [hqueued, List.append_assoc]⟩

end Sound

end Journal

end Publishing

end Courier
