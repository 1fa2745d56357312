import Courier.Proofs.Lists
import Courier.Proofs.Path
import Courier.Worker.Pool

/-!
# The logbook of a pool

Everything that happens in a pool of workers is noted down in one logbook, with the worker that did
it.  A look of an idle worker at the token and what it does about it are one entry: it takes a
delivery, has lost its consumer or leaves.

A worker works in rounds: it takes a delivery, handles it once, and takes the next one when that
has returned.  So when it gives up its consumer and its channel nothing that it took is unhandled.

* `Worker.Deed`, `Worker.Entry` : what is noted down.
* `Worker.Turn`, `Worker.Move` : one deed of a worker, and one entry of a pool.
* `Worker.exists_move_iff` : these are the events of the pool.
* `Worker.Logged` : the pools with their logbooks.
* `Worker.Stint` : **what a worker has done so far**, by its phase.
* `Worker.Logged.regular` : a logbook in which nothing is taken after the token was cancelled.
-/

namespace Courier

namespace Worker

/-- What a worker does. -/
inductive Deed where
  /-- It takes a delivery. -/
  | take (tag : UInt64) (occurrence : Amqp.Occurrence)
  /-- The handling of the delivery has a question answered. -/
  | handle (a : Processing.Action) (answer : a.Answer)
  /-- The handling of the delivery has returned. -/
  | conclude (outcome : Outcome)
  /-- It has lost its consumer and cancels the token. -/
  | lose
  /-- It leaves its loop since the token is cancelled. -/
  | leave
  /-- It gives up its consumer or its channel, or asks whether it still has them. -/
  | retire (q : Amqp.Ask Channel) (answer : q.Answer)
  | vanish
  /-- It dies. -/
  | crash

/-- An entry of the logbook. -/
inductive Entry where
  | deed (worker : Nat) (deed : Deed)
  /-- The token is cancelled from outside. -/
  | cancel

/-- Whether a deed cancels the token. -/
def Deed.cancels : Deed → Bool
  | .lose => true
  | .take .. => false
  | .handle .. => false
  | .conclude _ => false
  | .leave => false
  | .retire .. => false
  | .vanish => false
  | .crash => false

/-- Whether the token is cancelled. -/
def Entry.cancels : Entry → Bool
  | .deed _ d => d.cancels
  | .cancel => true

/-- Whether a delivery is taken. -/
def Entry.takes : Entry → Bool
  | .deed _ (.take ..) => true
  | .deed .. => false
  | .cancel => false

/-- What a worker did, if it was this one. -/
def Entry.by? (i : Nat) : Entry → Option Deed
  | .deed j d => if j = i then some d else none
  | .cancel => none

/-- The deeds of a worker, the oldest first. -/
def deedsOf (i : Nat) (log : List Entry) : List Deed := log.filterMap (Entry.by? i)

/-- Whether a worker has left its loop. -/
def Phase.hasLeft : Phase → Bool
  | .retiring _ => true
  | .gone => true
  | .idle => false
  | .handling .. => false
  | .crashed => false

/-- Whether a worker has ended. -/
def Phase.hasEnded : Phase → Bool
  | .gone => true
  | .crashed => true
  | .idle => false
  | .handling .. => false
  | .retiring _ => false

/-- What a worker can do, given whether the token is cancelled, and what becomes of it. -/
inductive Turn (c : Processing.Config) (i : Nat) (cancelled : Bool) : Phase → Deed → Phase → Prop
  where
  | take (tag : UInt64) (o : Amqp.Occurrence) (live : cancelled = false) :
    Turn c i cancelled .idle (.take tag o) (.handling tag (Processing.process c o))
  | handle (tag : UInt64) (a : Processing.Action) (next : a.Answer → Processing.Task)
      (answer : a.Answer) :
    Turn c i cancelled (.handling tag (.ask a next)) (.handle a answer)
      (.handling tag (next answer))
  | conclude (tag : UInt64) (outcome : Outcome) :
    Turn c i cancelled (.handling tag (.done outcome)) (.conclude outcome) .idle
  | lose (live : cancelled = false) :
    Turn c i cancelled .idle .lose (.retiring (Worker.retire i))
  | leave (stopped : cancelled = true) :
    Turn c i cancelled .idle .leave (.retiring (Worker.retire i))
  | retire (q : Amqp.Ask Channel) (next : q.Answer → Talk Unit) (answer : q.Answer) :
    Turn c i cancelled (.retiring (.ask q next)) (.retire q answer) (.retiring (next answer))
  | vanish : Turn c i cancelled (.retiring (.done ())) .vanish .gone
  | crash (tag : UInt64) (rest : Processing.Task) :
    Turn c i cancelled (.handling tag rest) .crash .crashed

/-- What can happen in a pool. -/
inductive Move (c : Processing.Config) (p : Pool) : Entry → Pool → Prop where
  /-- A worker does something. -/
  | deed (i : Nat) {φ φ' : Phase} {d : Deed} (present : p.workers[i]? = some φ)
      (turn : Turn c i p.cancelled φ d φ') :
    Move c p (.deed i d) { p.become i φ' with cancelled := p.cancelled || d.cancels }
  | cancel : Move c p .cancel { p with cancelled := true }

variable {c : Processing.Config} {p p' : Pool} {count i : Nat}

/-- A deed that does not cancel the token changes nothing but its worker. -/
theorem move_of_turn {φ φ' : Phase} {d : Deed} (present : p.workers[i]? = some φ)
    (turn : Turn c i p.cancelled φ d φ') (hd : d.cancels = false) :
    Move c p (.deed i d) (p.become i φ') := by
  have h := Move.deed i present turn
  rw [hd, Bool.or_false] at h
  exact h

/-- Every event of the pool can be noted down. -/
theorem exists_move_of_step? {e : Pool.Event} (h : p.step? c e = some p') :
    ∃ entry, Move c p entry p' := by
  cases e with
  | deliver i tag o =>
    simp only [Pool.step?] at h
    split at h <;> cases h
    next hi hlive => exact ⟨_, move_of_turn hi (.take tag o hlive) rfl⟩
  | lose i =>
    simp only [Pool.step?] at h
    split at h <;> cases h
    next hi hlive =>
      have hmove := Move.deed (c := c) i hi (.lose hlive)
      rw [Deed.cancels, Bool.or_true] at hmove
      exact ⟨_, hmove⟩
  | leave i =>
    simp only [Pool.step?] at h
    split at h <;> cases h
    next hi hstopped => exact ⟨_, move_of_turn hi (.leave hstopped) rfl⟩
  | handle i answers =>
    simp only [Pool.step?] at h
    split at h <;> cases h
    next tag q next hi => exact ⟨_, move_of_turn hi (.handle tag q next (answers q)) rfl⟩
  | conclude i =>
    simp only [Pool.step?] at h
    split at h <;> cases h
    next tag outcome hi => exact ⟨_, move_of_turn hi (.conclude tag outcome) rfl⟩
  | retire i answers =>
    simp only [Pool.step?] at h
    split at h <;> cases h
    next q next hi => exact ⟨_, move_of_turn hi (.retire q next (answers q)) rfl⟩
  | vanish i =>
    simp only [Pool.step?] at h
    split at h <;> cases h
    next hi => exact ⟨_, move_of_turn hi .vanish rfl⟩
  | crash i =>
    simp only [Pool.step?] at h
    split at h <;> cases h
    next tag rest hi => exact ⟨_, move_of_turn hi (.crash tag rest) rfl⟩
  | cancel =>
    cases h
    exact ⟨_, .cancel⟩

/-- Any answer to one question is among the answers to all of them, if none is without answer. -/
theorem exists_answers {Q : Type} {A : Q → Type} (h : ∀ q, Nonempty (A q)) {q : Q} (a : A q) :
    ∃ answers : (q : Q) → A q, answers q = a := by
  classical
  exact ⟨fun q' => if hq : q' = q then hq ▸ a else Classical.choice (h q'), by simp⟩

theorem nonempty_answer (a : Processing.Action) : Nonempty a.Answer :=
  match a with
  | .count _ => ⟨()⟩
  | .send .. => ⟨⟨0, .ok ""⟩⟩
  | .settle _ => ⟨.ok ()⟩
  | .publish _ => ⟨.ok ()⟩

theorem nonempty_reply (q : Amqp.Ask Channel) : Nonempty q.Answer :=
  match q with
  | .connect _ => ⟨.error none⟩
  | .isConnected => ⟨true⟩
  | .disconnect _ => ⟨.error none⟩
  | .openChannel _ => ⟨.error none⟩
  | .isOpen _ => ⟨true⟩
  | .call .. => ⟨.error none⟩

/-- Whatever can be noted down is an event of the pool. -/
theorem exists_step?_of_move {entry : Entry} (h : Move c p entry p') :
    ∃ e, p.step? c e = some p' := by
  cases h with
  | cancel => exact ⟨.cancel, rfl⟩
  | deed i present turn =>
    cases turn with
    | take tag o live =>
      refine ⟨.deliver i tag o, ?_⟩
      simp [Pool.step?, present, live, Deed.cancels, Pool.become]
    | handle tag a next answer =>
      obtain ⟨answers, rfl⟩ := exists_answers nonempty_answer answer
      refine ⟨.handle i answers, ?_⟩
      simp [Pool.step?, present, Deed.cancels, Pool.become]
    | conclude tag outcome =>
      refine ⟨.conclude i, ?_⟩
      simp [Pool.step?, present, Deed.cancels, Pool.become]
    | lose live =>
      refine ⟨.lose i, ?_⟩
      simp [Pool.step?, present, live, Deed.cancels, Pool.become]
    | leave stopped =>
      refine ⟨.leave i, ?_⟩
      simp [Pool.step?, present, stopped, Pool.become]
    | retire q next answer =>
      obtain ⟨answers, rfl⟩ := exists_answers nonempty_reply answer
      refine ⟨.retire i answers, ?_⟩
      simp [Pool.step?, present, Deed.cancels, Pool.become]
    | vanish =>
      refine ⟨.vanish i, ?_⟩
      simp [Pool.step?, present, Deed.cancels, Pool.become]
    | crash tag rest =>
      refine ⟨.crash i, ?_⟩
      simp [Pool.step?, present, Deed.cancels, Pool.become]

/-- The entries of the logbook are the events of the pool. -/
theorem exists_move_iff : (∃ entry, Move c p entry p') ↔ ∃ e, p.step? c e = some p' :=
  ⟨fun ⟨_, h⟩ => exists_step?_of_move h, fun ⟨_, h⟩ => exists_move_of_step? h⟩

/-- A pool of some workers and its logbook, the oldest entry first. -/
inductive Logged (c : Processing.Config) (count : Nat) : Pool → List Entry → Prop where
  | start : Logged c count (.start count) []
  /-- One more entry is made. -/
  | step {p p' : Pool} {log : List Entry} {entry : Entry} (before : Logged c count p log)
      (move : Move c p entry p') : Logged c count p' (log ++ [entry])

/-- Every pool that can be has a logbook, and no other has one. -/
theorem exists_logged_iff : (∃ log, Logged c count p log) ↔ p.Reachable c count := by
  constructor
  · rintro ⟨log, h⟩
    induction h with
    | start => exact .start
    | step _ hmove ih =>
      obtain ⟨e, he⟩ := exists_step?_of_move hmove
      exact .step e ih he
  · intro h
    induction h with
    | start => exact ⟨[], .start⟩
    | step e _ hstep ih =>
      obtain ⟨log, hlog⟩ := ih
      obtain ⟨entry, hentry⟩ := exists_move_of_step? hstep
      exact ⟨_, hlog.step hentry⟩

/-! ### One worker -/

/-- Deliveries handled to the end, one after the other: each was taken, given to the handling once,
and the handling returned. -/
inductive Rounds (c : Processing.Config) : List Deed → Prop where
  | nil : Rounds c []
  | snoc {ds : List Deed} {past : List ((a : Processing.Action) × a.Answer)} (before : Rounds c ds)
      (tag : UInt64) (o : Amqp.Occurrence) (outcome : Outcome)
      (handled : (Processing.process c o).Path past (.done outcome)) :
    Rounds c (ds ++ .take tag o :: past.map (fun x => .handle x.1 x.2) ++ [.conclude outcome])

/-- What a worker has done so far, by its phase. -/
inductive Stint (c : Processing.Config) (i : Nat) : Phase → List Deed → Prop where
  | idle {ds : List Deed} (rounds : Rounds c ds) : Stint c i .idle ds
  /-- The delivery that it took last is being handled. -/
  | handling {ds : List Deed} {past : List ((a : Processing.Action) × a.Answer)}
      {rest : Processing.Task} (rounds : Rounds c ds) (tag : UInt64) (o : Amqp.Occurrence)
      (under : (Processing.process c o).Path past rest) :
    Stint c i (.handling tag rest) (ds ++ .take tag o :: past.map fun x => .handle x.1 x.2)
  /-- Everything that it took has been handled, and it is giving up its consumer and its channel. -/
  | retiring {ds : List Deed} {past : List ((q : Amqp.Ask Channel) × q.Answer)} {rest : Talk Unit}
      (rounds : Rounds c ds) (exit : Deed) (hexit : exit = .lose ∨ exit = .leave)
      (under : (Worker.retire i).Path past rest) :
    Stint c i (.retiring rest) (ds ++ exit :: past.map fun x => .retire x.1 x.2)
  | gone {ds : List Deed} {past : List ((q : Amqp.Ask Channel) × q.Answer)}
      (rounds : Rounds c ds) (exit : Deed) (hexit : exit = .lose ∨ exit = .leave)
      (given : (Worker.retire i).Path past (.done ())) :
    Stint c i .gone (ds ++ exit :: past.map (fun x => .retire x.1 x.2) ++ [.vanish])
  /-- It died while it handled the delivery that it took last. -/
  | crashed {ds : List Deed} {past : List ((a : Processing.Action) × a.Answer)}
      {rest : Processing.Task} (rounds : Rounds c ds) (tag : UInt64) (o : Amqp.Occurrence)
      (under : (Processing.process c o).Path past rest) :
    Stint c i .crashed (ds ++ .take tag o :: past.map (fun x => .handle x.1 x.2) ++ [.crash])

/-- A worker goes on in its round with everything that it can do. -/
theorem Stint.turn {φ φ' : Phase} {d : Deed} {ds : List Deed} {cancelled : Bool}
    (h : Stint c i φ ds) (hturn : Turn c i cancelled φ d φ') : Stint c i φ' (ds ++ [d]) := by
  cases hturn with
  | take tag o live =>
    cases h with
    | idle rounds => exact .handling rounds tag o (.refl _)
  | handle tag a next answer =>
    cases h with
    | handling rounds tag o under =>
      simpa using Stint.handling (i := i) rounds tag o (under.snoc answer)
  | conclude tag outcome =>
    cases h with
    | handling rounds tag o under => exact .idle (rounds.snoc tag o outcome under)
  | lose live =>
    cases h with
    | idle rounds => exact .retiring rounds .lose (.inl rfl) (.refl _)
  | leave stopped =>
    cases h with
    | idle rounds => exact .retiring rounds .leave (.inr rfl) (.refl _)
  | retire q next answer =>
    cases h with
    | retiring rounds exit hexit under =>
      simpa using Stint.retiring rounds exit hexit (under.snoc answer)
  | vanish =>
    cases h with
    | retiring rounds exit hexit under => exact .gone rounds exit hexit under
  | crash tag rest =>
    cases h with
    | handling rounds tag o under => exact .crashed rounds tag o under

/-- A worker leaves its loop only with the token cancelled, by itself or before. -/
theorem Turn.cancelled_of_hasLeft {φ φ' : Phase} {d : Deed} {cancelled : Bool}
    (h : Turn c i cancelled φ d φ') (hbefore : φ.hasLeft = true → cancelled = true)
    (hleft : φ'.hasLeft = true) : (cancelled || d.cancels) = true := by
  cases h with
  | take => cases hleft
  | handle => cases hleft
  | conclude => cases hleft
  | lose => exact Bool.or_true _
  | leave stopped => rw [stopped, Bool.true_or]
  | retire => rw [hbefore rfl, Bool.true_or]
  | vanish => rw [hbefore rfl, Bool.true_or]
  | crash => cases hleft

/-! ### All workers -/

theorem deedsOf_deed (i : Nat) (log : List Entry) (d : Deed) :
    deedsOf i (log ++ [.deed i d]) = deedsOf i log ++ [d] := by
  simp [deedsOf, Entry.by?]

/-- An entry about another worker is none about this one. -/
theorem deedsOf_other {j : Nat} (h : j ≠ i) (log : List Entry) (d : Deed) :
    deedsOf i (log ++ [.deed j d]) = deedsOf i log := by
  simp [deedsOf, Entry.by?, h]

theorem deedsOf_cancel (i : Nat) (log : List Entry) :
    deedsOf i (log ++ [.cancel]) = deedsOf i log := by
  simp [deedsOf, Entry.by?]

/-- A logbook in which everything goes by the rules. -/
structure Regular (c : Processing.Config) (p : Pool) (log : List Entry) : Prop where
  /-- The token is cancelled since someone cancelled it. -/
  cancelled : p.cancelled = log.any Entry.cancels
  /-- When a delivery is taken the token has not been cancelled. -/
  taken : ∀ before entry after, log = before ++ entry :: after → entry.takes = true →
    before.any Entry.cancels = false
  /-- Every worker goes by its rounds. -/
  stints : ∀ (i : Nat) (φ : Phase), p.workers[i]? = some φ → Stint c i φ (deedsOf i log)
  /-- If a worker has left its loop, the token is cancelled. -/
  left : ∀ (i : Nat) (φ : Phase), p.workers[i]? = some φ → φ.hasLeft = true → p.cancelled = true

/-- An entry made of a pool cancels its token, or it leaves it as it is. -/
theorem Move.cancelled_eq {entry : Entry} (h : Move c p entry p') :
    p'.cancelled = (p.cancelled || entry.cancels) := by
  cases h with
  | deed => rfl
  | cancel => exact (Bool.or_true _).symm

/-- Nothing is taken once the token is cancelled. -/
theorem Move.live_of_takes {entry : Entry} (h : Move c p entry p') (htakes : entry.takes = true) :
    p.cancelled = false := by
  cases h with
  | deed i present turn =>
    cases turn with
    | take tag o live => exact live
    | _ => cases htakes
  | cancel => cases htakes

theorem regular_start (c : Processing.Config) (count : Nat) : Regular c (.start count) [] where
  cancelled := rfl
  taken before entry after h := absurd h (by simp)
  stints i φ h := by
    cases List.eq_of_mem_replicate (List.mem_of_getElem? h)
    exact .idle .nil
  left i φ h hleft := by
    cases List.eq_of_mem_replicate (List.mem_of_getElem? h)
    cases hleft

theorem Regular.step {log : List Entry} {entry : Entry} (h : Regular c p log)
    (hmove : Move c p entry p') : Regular c p' (log ++ [entry]) where
  cancelled := by
    rw [hmove.cancelled_eq, h.cancelled, List.any_append]
    simp
  taken before entry' after heq htakes := by
    rcases split_snoc heq with ⟨-, rfl, rfl⟩ | ⟨rest, -, hlog⟩
    · rw [← h.cancelled]
      exact hmove.live_of_takes htakes
    · exact h.taken before entry' rest hlog htakes
  stints := by
    cases hmove with
    | cancel =>
      intro i φ hi
      rw [deedsOf_cancel]
      exact h.stints i φ hi
    | @deed j φ φ' d present turn =>
      refine forall_getElem?_set ?_ fun i ψ hij hi => ?_
      · rw [deedsOf_deed]
        exact (h.stints j φ present).turn turn
      · rw [deedsOf_other (Ne.symm hij)]
        exact h.stints i ψ hi
  left := by
    cases hmove with
    | cancel => exact fun _ _ _ _ => rfl
    | @deed j φ φ' d present turn =>
      refine forall_getElem?_set (turn.cancelled_of_hasLeft (h.left j φ present)) ?_
      intro i ψ _ hi hleft
      exact (congrArg (· || d.cancels) (h.left i ψ hi hleft)).trans (Bool.true_or _)

/-- **Every logbook goes by the rules.** -/
theorem Logged.regular {log : List Entry} (h : Logged c count p log) : Regular c p log := by
  induction h with
  | start => exact regular_start c count
  | step _ hmove ih => exact ih.step hmove

/-- Every pool with a logbook has all of its workers. -/
theorem Logged.length {log : List Entry} (h : Logged c count p log) : p.workers.length = count :=
  (exists_logged_iff.1 ⟨log, h⟩).length

end Worker

end Courier
