import Courier.Proofs.Lists
import Courier.Proofs.Publishing.Journal
import Mathlib.Data.List.Nodup

/-!
# The publisher and its callers

Any number of callers publish notifications through one publisher.  A caller queues its job when
there is room, waits for the receipt, counts it and ends with its result; it may give up at any
time.  The publisher works at its own pace and may be cut short at any time.

* `Publishing.Office` : the callers and the journal of the publisher.
* `Publishing.Office.Step` : one step of one of them, in any order.
* `Publishing.Office.Consistent` : every caller stands where the journal says it can stand.
* `Publishing.office_faithful` : **no job is lost, doubled, reordered or mixed up with another.**
-/

namespace Courier

namespace Publishing

/-- How far a caller is. -/
inductive Standing where
  /-- It goes on by itself. -/
  | going (rest : Task (Except PublishError Unit))
  /-- Its job is queued, and it waits for the receipt. -/
  | waiting (next : Receipt → Task (Except PublishError Unit))
  /-- It gave up. -/
  | left

/-- Whether a caller holds its sender no more. -/
def Standing.isOver : Standing → Bool
  | .going (.done _) => true
  | .going (.ask ..) => false
  | .waiting _ => false
  | .left => true

/-- One call of the publisher. -/
structure Call where
  /-- What is to be published. -/
  notification : Notification
  /-- How far the caller is. -/
  standing : Standing

/-- The publisher and its callers, who are known by their number. -/
structure Office where
  /-- The journal of the publisher. -/
  journal : Journal
  /-- The calls, the oldest first. -/
  calls : List Call

namespace Office

/-- A new publisher without callers. -/
def start (c : Config) : Office := ⟨.start c, []⟩

/-- One caller stands somewhere else. -/
def moved (s : Office) (i : Nat) (call : Call) : Office := { s with calls := s.calls.set i call }

/-- What can happen. -/
inductive Step (c : Config) (s : Office) : Office → Prop where
  /-- Somebody who holds a sender calls. -/
  | begin (n : Notification) (isOpen : s.journal.line.isOpen = true) :
      Step c s { s with calls := s.calls ++ [⟨n, .going (publish c n)⟩] }
  /-- A caller queues its job. -/
  | enqueue (i : Nat) (n : Notification) (m : Amqp.Outgoing)
      (next : Receipt → Task (Except PublishError Unit)) (j : Journal)
      (call : s.calls[i]? = some ⟨n, .going (.ask (.submit m) next)⟩)
      (queues : s.journal.step? (.enqueue ⟨i, m⟩) = some j) :
      Step c s ⟨j, s.calls.set i ⟨n, .waiting next⟩⟩
  /-- A caller finds that the task has ended. -/
  | turnAway (i : Nat) (n : Notification) (m : Amqp.Outgoing)
      (next : Receipt → Task (Except PublishError Unit))
      (call : s.calls[i]? = some ⟨n, .going (.ask (.submit m) next)⟩)
      (ended : s.journal.line.phase ≠ .running) :
      Step c s (s.moved i ⟨n, .going (next .unanswered)⟩)
  /-- A caller is told what became of its job. -/
  | receive (i : Nat) (n : Notification) (next : Receipt → Task (Except PublishError Unit))
      (r : Receipt) (call : s.calls[i]? = some ⟨n, .waiting next⟩)
      (told : (i, r) ∈ s.journal.line.told) :
      Step c s (s.moved i ⟨n, .going (next r)⟩)
  /-- A caller counts. -/
  | count (i : Nat) (n : Notification) (event : Metrics.Event)
      (next : Unit → Task (Except PublishError Unit))
      (call : s.calls[i]? = some ⟨n, .going (.ask (.count event) next)⟩) :
      Step c s (s.moved i ⟨n, .going (next ())⟩)
  /-- A caller gives up. -/
  | giveUp (i : Nat) (n : Notification) (standing : Standing)
      (call : s.calls[i]? = some ⟨n, standing⟩) (busy : standing.isOver = false) :
      Step c s (s.moved i ⟨n, .left⟩)
  /-- The task does something. -/
  | serve (e : Line.Event) (j : Journal) (own : e.isOwn = true)
      (serves : s.journal.step? e = some j) :
      Step c s { s with journal := j }
  /-- The last sender goes, which no caller holds any more. -/
  | close (j : Journal) (allOver : ∀ call ∈ s.calls, call.standing.isOver = true)
      (closes : s.journal.step? .close = some j) :
      Step c s { s with journal := j }

/-- What can become of a new publisher and its callers. -/
inductive Reachable (c : Config) : Office → Prop where
  /-- The beginning. -/
  | start : Reachable c (start c)
  /-- One step more. -/
  | step {s s' : Office} (before : Reachable c s) (step : Step c s s') : Reachable c s'

/-- A caller ended with a result. -/
def Returned (s : Office) (i : Nat) (n : Notification) (result : Except PublishError Unit) : Prop :=
  s.calls[i]? = some ⟨n, .going (.done result)⟩

/-- The answers of the channel to the jobs of a caller. -/
def answersTo (s : Office) (i : Nat) : List (Job × Except BrokerError Unit) :=
  s.journal.answered.filter fun a => a.1.caller == i

end Office

/-! ### Where a caller can stand -/

/-- What a caller can know about its job: what it was told or, if the task was cut short before the
job was queued, that there will be no answer. -/
def Learned (j : Journal) (i : Nat) (r : Receipt) : Prop :=
  (i, r) ∈ j.line.told ∨
    (r = .unanswered ∧ i ∉ j.queued.map Job.caller ∧ j.line.phase = .aborted)

/-- Where a caller can stand, for a journal. -/
inductive Fits (c : Config) (j : Journal) (i : Nat) (n : Notification) : Standing → Prop where
  /-- It has not queued its job. -/
  | fresh (h : i ∉ j.queued.map Job.caller) :
      Fits c j i n (.going (.ask (.submit (messageOf c n)) conclude))
  | waiting (h : i ∈ j.queued.map Job.caller) : Fits c j i n (.waiting conclude)
  /-- It knows what became of its job. -/
  | concluding (r : Receipt) (h : Learned j i r) :
      Fits c j i n (.going (.ask (.count r.event) fun _ => .done r.result))
  /-- It ended with what became of its job. -/
  | finished (r : Receipt) (h : Learned j i r) : Fits c j i n (.going (.done r.result))
  /-- It gave up. -/
  | left : Fits c j i n .left

variable {c : Config} {j j' : Journal} {i : Nat} {n : Notification} {st : Standing}

/-- A caller keeps its place while the journal grows elsewhere. -/
theorem Fits.mono (h : Fits c j i n st)
    (hqueued : i ∈ j'.queued.map Job.caller ↔ i ∈ j.queued.map Job.caller)
    (htold : j.line.told ⊆ j'.line.told)
    (haborted : j.line.phase = .aborted → j'.line.phase = .aborted) : Fits c j' i n st := by
  have hlearned : ∀ r, Learned j i r → Learned j' i r := by
    rintro r (hr | ⟨hr, hi, ha⟩)
    · exact .inl (htold hr)
    · exact .inr ⟨hr, mt hqueued.1 hi, haborted ha⟩
  cases h with
  | fresh h => exact .fresh (mt hqueued.1 h)
  | waiting h => exact .waiting (hqueued.2 h)
  | concluding r h => exact .concluding r (hlearned r h)
  | finished r h => exact .finished r (hlearned r h)
  | left => exact .left

namespace Office

/-- The callers and the journal agree. -/
structure Consistent (c : Config) (s : Office) : Prop where
  sound : s.journal.Sound
  /-- There is as much room as configured, and at least for one job. -/
  capacity : s.journal.line.capacity = max c.buffer.toNat 1
  /-- Nobody queues two jobs. -/
  distinct : (s.journal.queued.map Job.caller).Nodup
  /-- Every queued job carries the message of its caller. -/
  own : ∀ job ∈ s.journal.queued, ∃ n st, s.calls[job.caller]? = some ⟨n, st⟩ ∧
    job.message = messageOf c n
  /-- Every caller stands where it can stand. -/
  fits : ∀ i call, s.calls[i]? = some call → Fits c s.journal i call.notification call.standing
  /-- Once the line is closed, nobody calls. -/
  closed : s.journal.line.isOpen = false → ∀ call ∈ s.calls, call.standing.isOver = true

variable {s s' : Office}

theorem Consistent.start (c : Config) : (Office.start c).Consistent c where
  sound := .start c
  capacity := rfl
  distinct := .nil
  own _ h := by cases h
  fits _ _ h := by cases h
  closed h := by cases h

/-- A caller who goes to another place keeps its notification. -/
theorem named_set {calls : List Call} {st' : Standing} {k : Nat} {p : Notification → Prop}
    (hcall : calls[i]? = some ⟨n, st⟩) (h : ∃ n' st₀, calls[k]? = some ⟨n', st₀⟩ ∧ p n') :
    ∃ n' st₀, (calls.set i ⟨n, st'⟩)[k]? = some ⟨n', st₀⟩ ∧ p n' := by
  obtain ⟨n', st₀, hget, hp⟩ := h
  by_cases hk : i = k
  · subst hk
    cases hcall.symm.trans hget
    exact ⟨n, st', List.getElem?_set_self (List.getElem?_eq_some_iff.1 hcall).1, hp⟩
  · exact ⟨n', st₀, (List.getElem?_set_ne hk).trans hget, hp⟩

namespace Consistent

theorem fits_at (hs : s.Consistent c) (hcall : s.calls[i]? = some ⟨n, st⟩) :
    Fits c s.journal i n st := hs.fits i _ hcall

/-- A caller who is busy keeps the line open. -/
theorem isOpen_of_busy (hs : s.Consistent c) (hcall : s.calls[i]? = some ⟨n, st⟩)
    (hbusy : st.isOver = false) : s.journal.line.isOpen = true := by
  rw [← Bool.not_eq_false]
  intro hclosed
  have hover : st.isOver = true := hs.closed hclosed _ (List.mem_of_getElem? hcall)
  rw [hbusy] at hover
  cases hover

/-- A busy caller goes to another place. -/
theorem moved {st' : Standing} (hs : s.Consistent c) (hcall : s.calls[i]? = some ⟨n, st⟩)
    (hbusy : st.isOver = false) (hfits : Fits c s.journal i n st') :
    (s.moved i ⟨n, st'⟩).Consistent c where
  sound := hs.sound
  capacity := hs.capacity
  distinct := hs.distinct
  own job hjob := named_set hcall (hs.own job hjob)
  fits := forall_getElem?_set hfits fun k call _ => hs.fits k call
  closed hclosed := absurd ((hs.isOpen_of_busy hcall hbusy).symm.trans hclosed) (by decide)

theorem begin (hs : s.Consistent c) (isOpen : s.journal.line.isOpen = true) :
    Consistent c { s with calls := s.calls ++ [⟨n, .going (publish c n)⟩] } := by
  refine ⟨hs.sound, hs.capacity, hs.distinct, ?_, ?_, fun hclosed =>
    absurd (isOpen.symm.trans hclosed) (by decide)⟩
  · intro job hjob
    obtain ⟨n', st', hget, hmessage⟩ := hs.own job hjob
    refine ⟨n', st', ?_, hmessage⟩
    rw [List.getElem?_append_left (List.getElem?_eq_some_iff.1 hget).1, hget]
  · intro k call hget
    rcases Nat.lt_or_ge k s.calls.length with hk | hk
    · rw [List.getElem?_append_left hk] at hget
      exact hs.fits k call hget
    · -- a new caller has a number that no queued job can carry
      rw [List.getElem?_append_right hk, List.getElem?_singleton] at hget
      obtain ⟨-, hget⟩ := Option.ite_none_right_eq_some.1 hget
      cases hget
      refine .fresh fun hmem => ?_
      obtain ⟨job, hjob, rfl⟩ := List.mem_map.1 hmem
      obtain ⟨n', st', hget, -⟩ := hs.own job hjob
      exact Nat.not_lt_of_ge hk (List.getElem?_eq_some_iff.1 hget).1

theorem enqueue {m : Amqp.Outgoing} {next : Receipt → Task (Except PublishError Unit)}
    (hs : s.Consistent c) (hcall : s.calls[i]? = some ⟨n, .going (.ask (.submit m) next)⟩)
    (h : s.journal.step? (.enqueue ⟨i, m⟩) = some j) :
    Consistent c ⟨j, s.calls.set i ⟨n, .waiting next⟩⟩ := by
  have hsound := hs.sound.step h
  have hcapacity := (Journal.capacity_of_step? h).trans hs.capacity
  cases hs.fits_at hcall with | fresh hfresh =>
  cases Journal.move_of_step? h with | enqueue _ _ isOpen _ =>
  refine ⟨hsound, hcapacity, ?_, ?_, ?_, fun hclosed =>
    absurd (isOpen.symm.trans hclosed) (by decide)⟩
  · rw [List.map_append, List.nodup_append]
    refine ⟨hs.distinct, List.pairwise_singleton _ _, ?_⟩
    intro k hk k' hk' heq
    rw [List.mem_singleton.1 hk'] at heq
    subst heq
    exact hfresh hk
  · intro job hjob
    rcases List.mem_append.1 hjob with hjob | hjob
    · exact named_set hcall (hs.own job hjob)
    · rw [List.mem_singleton.1 hjob]
      exact named_set hcall ⟨n, _, hcall, rfl⟩
  · refine forall_getElem?_set (.waiting ?_) fun k call hk hget => ?_
    · rw [List.map_append]
      exact List.mem_append_right _ (List.mem_singleton_self _)
    · refine (hs.fits k call hget).mono ?_ (List.Subset.refl _) id
      rw [List.map_append, List.mem_append, List.map_singleton, List.mem_singleton]
      exact or_iff_left hk

theorem serve {e : Line.Event} (hs : s.Consistent c) (hown : e.isOwn = true)
    (h : s.journal.step? e = some j) : Consistent c { s with journal := j } := by
  have hqueued := Journal.queued_of_own hown h
  refine ⟨hs.sound.step h, (Journal.capacity_of_step? h).trans hs.capacity, ?_, ?_, ?_, ?_⟩
  · rw [hqueued]
    exact hs.distinct
  · rw [hqueued]
    exact hs.own
  · intro k call hget
    exact (hs.fits k call hget).mono (by rw [hqueued]) (Journal.told_subset_of_step? h)
      (Journal.aborted_of_step? h)
  · intro hclosed
    exact hs.closed ((Journal.isOpen_of_own hown h).symm.trans hclosed)

theorem close (hs : s.Consistent c) (hover : ∀ call ∈ s.calls, call.standing.isOver = true)
    (h : s.journal.step? .close = some j) : Consistent c { s with journal := j } := by
  have hqueued : j.queued = s.journal.queued := by
    cases Journal.move_of_step? h with | close => rfl
  refine ⟨hs.sound.step h, (Journal.capacity_of_step? h).trans hs.capacity, ?_, ?_, ?_,
    fun _ => hover⟩
  · rw [hqueued]
    exact hs.distinct
  · rw [hqueued]
    exact hs.own
  · intro k call hget
    exact (hs.fits k call hget).mono (by rw [hqueued]) (Journal.told_subset_of_step? h)
      (Journal.aborted_of_step? h)

/-- A busy caller finds a task that ended only if the task was cut short. -/
theorem aborted_of_busy (hs : s.Consistent c) (hcall : s.calls[i]? = some ⟨n, st⟩)
    (hbusy : st.isOver = false) (hended : s.journal.line.phase ≠ .running) :
    s.journal.line.phase = .aborted := by
  have isOpen := hs.isOpen_of_busy hcall hbusy
  cases hphase : s.journal.line.phase with
  | running => exact absurd hphase hended
  | finished => cases isOpen.symm.trans (hs.sound.shut hphase)
  | aborted => rfl

/-- Every step keeps the callers and the journal in agreement. -/
theorem step (hs : s.Consistent c) (h : Step c s s') : s'.Consistent c := by
  cases h with
  | begin n isOpen => exact hs.begin isOpen
  | enqueue i n m next j call queues => exact hs.enqueue call queues
  | turnAway i n m next call ended =>
    cases hs.fits_at call with | fresh hfresh =>
    exact hs.moved call rfl
      (.concluding .unanswered (.inr ⟨rfl, hfresh, hs.aborted_of_busy call rfl ended⟩))
  | receive i n next r call told =>
    cases hs.fits_at call with | waiting _ =>
    exact hs.moved call rfl (.concluding r (.inl told))
  | count i n event next call =>
    cases hs.fits_at call with | concluding r hlearned =>
    exact hs.moved call rfl (.finished r hlearned)
  | giveUp i n standing call busy => exact hs.moved call busy .left
  | serve e j own serves => exact hs.serve own serves
  | close j allOver closes => exact hs.close allOver closes

end Consistent

theorem Reachable.consistent (h : Reachable c s) : s.Consistent c := by
  induction h with
  | start => exact .start c
  | step _ hstep ih => exact ih.step hstep

/-! ### What a caller gets -/

namespace Consistent

theorem answered_prefix (hs : s.Consistent c) :
    s.journal.answered.map Prod.fst <+: s.journal.handed := hs.sound.answered_prefix

theorem handed_prefix (hs : s.Consistent c) : s.journal.handed <+: s.journal.queued :=
  hs.sound.handed_prefix

/-- A caller whose job was answered got this answer alone, and to its own message. -/
theorem answersTo_eq {job : Job} {result : Except BrokerError Unit} (hs : s.Consistent c)
    (hcall : s.calls[job.caller]? = some ⟨n, st⟩) (hmem : (job, result) ∈ s.journal.answered) :
    s.answersTo job.caller = [(⟨job.caller, messageOf c n⟩, result)] := by
  have hextends := hs.answered_prefix.trans hs.handed_prefix
  have hjob : job ∈ s.journal.queued := hextends.subset (List.mem_map_of_mem hmem)
  obtain ⟨n', st', hget, hmessage⟩ := hs.own job hjob
  cases hcall.symm.trans hget
  -- nobody queues two jobs, so nobody has two answers
  have hdistinct : (s.journal.answered.map fun a => a.1.caller).Nodup := by
    have := hs.distinct.sublist (hextends.sublist.map Job.caller)
    rwa [List.map_map] at this
  rw [← hmessage]
  exact filter_key_eq hdistinct hmem

/-- A caller is told one thing only. -/
theorem told_unique {r r' : Receipt} (hs : s.Consistent c) (h : (i, r) ∈ s.journal.line.told)
    (h' : (i, r') ∈ s.journal.line.told) : r = r' := by
  have htold : (s.journal.line.told.map Prod.fst).Nodup :=
    ((hs.sound.owed.nodup_iff.1 hs.distinct).sublist (List.sublist_append_left _ _))
  exact congrArg Prod.snd (List.inj_on_of_nodup_map htold h h' rfl)

/-- Whoever is told something has queued a job. -/
theorem mem_queued_of_told {r : Receipt} (hs : s.Consistent c)
    (h : (i, r) ∈ s.journal.line.told) : i ∈ s.journal.queued.map Job.caller :=
  hs.sound.owed.mem_iff.2 (List.mem_append_left _ (List.mem_map_of_mem h))

/-- What a caller learned is the answer to its own message, or the task was cut short and there is
no answer. -/
theorem learned_cases {r : Receipt} (hs : s.Consistent c) (hcall : s.calls[i]? = some ⟨n, st⟩)
    (h : Learned s.journal i r) :
    (∃ result, r = Line.receiptOf result ∧ s.answersTo i = [(⟨i, messageOf c n⟩, result)]) ∨
      (r = .unanswered ∧ s.journal.line.phase = .aborted ∧
        ∀ r', (i, r') ∈ s.journal.line.told → r' = .unanswered) := by
  rcases h with htold | ⟨hr, hqueued, haborted⟩
  · rcases hs.sound.honest i r htold with ⟨hr, haborted⟩ | ⟨job, result, hmem, hi, hr⟩
    · exact .inr ⟨hr, haborted, fun r' htold' => hr ▸ hs.told_unique htold' htold⟩
    · subst hi
      exact .inl ⟨result, hr, hs.answersTo_eq hcall hmem⟩
  · exact .inr ⟨hr, haborted, fun r' htold => absurd (hs.mem_queued_of_told htold) hqueued⟩

end Consistent

/-- What the end of a call says about the job: the channel took the caller's own message, or it
refused this very message, or the task was cut short and never gave the caller an answer. -/
def Justified (c : Config) (s : Office) (i : Nat) (n : Notification) :
    Except PublishError Unit → Prop
  | .ok () => s.answersTo i = [(⟨i, messageOf c n⟩, .ok ())]
  | .error (.broker e) => s.answersTo i = [(⟨i, messageOf c n⟩, .error e)]
  | .error .closed =>
    s.journal.line.phase = .aborted ∧ ∀ r, (i, r) ∈ s.journal.line.told → r = .unanswered
  | .error (.serialization _) => False

theorem Consistent.justified {result : Except PublishError Unit} (hs : s.Consistent c)
    (h : s.Returned i n result) : s.Justified c i n result := by
  cases hs.fits_at h with | finished r hlearned =>
  rcases hs.learned_cases h hlearned with ⟨result, rfl, hanswers⟩ | ⟨rfl, haborted, htold⟩
  · cases result with
    | ok _ => exact hanswers
    | error e => exact hanswers
  · exact ⟨haborted, htold⟩

/-- Everything is done: nobody holds a sender, nothing waits, and the channel was given every queued
job and answered it. -/
structure Drained (c : Config) (s : Office) : Prop where
  isOpen : s.journal.line.isOpen = false
  waiting : s.journal.line.waiting = []
  handed : s.journal.handed = s.journal.queued
  answered : s.journal.answered.map Prod.fst = s.journal.queued
  /-- Every caller gave up or got the answer of the channel to its own message. -/
  calls : ∀ i n st, s.calls[i]? = some ⟨n, st⟩ → st = .left ∨
    ∃ result, st = .going (.done (Line.receiptOf result).result) ∧
      s.answersTo i = [(⟨i, messageOf c n⟩, result)]

theorem Consistent.drained (hs : s.Consistent c) (h : s.journal.line.phase = .finished) :
    s.Drained c := by
  have hended : s.journal.line.phase ≠ .running := by rw [h]; decide
  have hwhole : s.journal.line.phase ≠ .aborted := by rw [h]; decide
  obtain ⟨hwaiting, hwork⟩ := hs.sound.ended hended
  obtain ⟨dropped, hqueued, hdropped⟩ := hs.sound.inOrder
  obtain ⟨lost, hhanded, hlost⟩ := hs.sound.oneByOne
  have hall : s.journal.queued = s.journal.handed := by
    rw [hqueued, hwaiting, hdropped hwhole, List.append_nil, List.append_nil]
  have hanswered : s.journal.handed = s.journal.answered.map Prod.fst := by
    rw [hhanded, hwork, hlost hwhole, Work.offered, List.append_nil, List.append_nil]
  refine ⟨hs.sound.shut h, hwaiting, hall.symm, (hall.trans hanswered).symm, ?_⟩
  intro i n st hcall
  have hover : st.isOver = true := hs.closed (hs.sound.shut h) _ (List.mem_of_getElem? hcall)
  cases hs.fits_at hcall with
  | left => exact .inl rfl
  | finished r hlearned =>
    rcases hs.learned_cases hcall hlearned with ⟨result, rfl, hanswers⟩ | ⟨-, haborted, -⟩
    · exact .inr ⟨result, rfl, hanswers⟩
    · exact absurd haborted hwhole
  | _ => cases hover

/-- The promise of the publisher. -/
structure Faithful (c : Config) (s : Office) : Prop where
  /-- No more jobs wait than there is room for. -/
  room : s.journal.line.waiting.length ≤ max c.buffer.toNat 1
  /-- Every call queues at most one job. -/
  distinct : (s.journal.queued.map Job.caller).Nodup
  /-- Every queued job carries the message of its call. -/
  own : ∀ job ∈ s.journal.queued, ∃ n st, s.calls[job.caller]? = some ⟨n, st⟩ ∧
    job.message = messageOf c n
  /-- The channel is given the queued jobs one after the other and in their order. -/
  handed : s.journal.handed <+: s.journal.queued
  /-- It answers them in this order. -/
  answered : s.journal.answered.map Prod.fst <+: s.journal.handed
  /-- Every result is justified. -/
  returned : ∀ i n result, s.Returned i n result → s.Justified c i n result
  /-- A task that was not cut short ends with everything done. -/
  finished : s.journal.line.phase = .finished → s.Drained c

end Office

/-- **No job is lost, doubled, reordered or mixed up with another**, for any number of callers and
in any order of steps. -/
theorem office_faithful {s : Office} (h : Office.Reachable c s) : s.Faithful c where
  room := h.consistent.capacity ▸ h.consistent.sound.room
  distinct := h.consistent.distinct
  own := h.consistent.own
  handed := h.consistent.handed_prefix
  answered := h.consistent.answered_prefix
  returned _ _ _ hreturned := h.consistent.justified hreturned
  finished hphase := h.consistent.drained hphase

/-- A publisher with room for one job. -/
def tight : Config := ⟨"main", "push", 0⟩

/-- A notification. -/
def reminder : Notification where
  medium := .push
  token := none
  userId := none
  templateCode := ""
  values := .none
  requestId := "first"
  priority := 0
  metadata := .empty

/-- Another one. -/
def another : Notification := { reminder with requestId := "second" }

/-- Two callers of a publisher with room for one job get what the channel said to each of them, and
then the task ends. -/
theorem office_faithful_tight : ∃ s, Office.Reachable tight s ∧ s.journal.line.phase = .finished ∧
    s.Returned 0 reminder (.ok ()) ∧
    s.Returned 1 another (.error (.broker (.publishNacked "main"))) ∧ s.Faithful tight := by
  have first := (Office.Reachable.start (c := tight)).step (.begin reminder rfl)
  have both := first.step (.begin another rfl)
  have offered := (both.step (.enqueue 0 _ _ _ _ rfl rfl)).step (.serve .take _ rfl rfl)
  have queued := offered.step (.enqueue 1 _ _ _ _ rfl rfl)
  have accepted := (queued.step (.serve (.answer (.ok ())) _ rfl rfl)).step
    (.serve .tell _ rfl rfl)
  have handed := accepted.step (.serve .take _ rfl rfl)
  have refused := (handed.step (.serve (.answer (.error (.publishNacked "main"))) _ rfl rfl)).step
    (.serve .tell _ rfl rfl)
  have told := (refused.step (.receive 0 _ _ .confirmed rfl (by decide))).step
    (.receive 1 _ _ (.refused (.publishNacked "main")) rfl (by decide))
  have counted := (told.step (.count 0 _ _ _ rfl)).step (.count 1 _ _ _ rfl)
  have closed := counted.step (.close _ (by decide) rfl)
  have finished := closed.step (.serve .finish _ rfl rfl)
  exact ⟨_, finished, rfl, rfl, rfl, office_faithful finished⟩

end Publishing

end Courier
