import Courier.Proofs.Pipeline.Crew
import Mathlib.Data.List.Nodup
import Mathlib.Tactic.MkIffOfInductiveProp

/-!
# No loss and no duplication

The accounts of the pipeline: every accepted notification has one live copy, or it ended once.  A
copy is alive in the main queue, in the retry queue, unsettled with a worker, or in the memory of a
worker that acknowledged it and is about to publish the retry.  The accounts stay balanced because
a worker settles its delivery before it publishes, and the broker forgets a copy only when it is
settled.

* `Pipeline.Balanced` : the accounts of the messages with some numbers.
* `Pipeline.Turn.balanced` : a question of a worker keeps them balanced; so do all other steps.
* `Pipeline.Sound` : the invariant, with the content of the copies, the replies behind the reported
  deliveries, and the tasks of the workers.
* `Pipeline.conserved` : **no loss and no duplication**, in every reachable state.
-/

namespace Courier

namespace Pipeline

/-- The accounts of the messages with some numbers. -/
@[mk_iff]
structure Balanced (s : Pipeline) (p : Nat → Bool) : Prop where
  /-- Every accepted message has a live copy or ended, and no message does so twice. -/
  accepted : s.live p + s.ended .delivered p + s.ended .deadLettered p + s.ended .lost p =
    (List.range s.world.accepted.length).countP p
  /-- The dead-letter queue holds the messages that ended there. -/
  deadLetters : s.world.inQueue .deadLetter p = s.ended .deadLettered p

variable {c : Config} {s : Pipeline} {p : Nat → Bool} {w' : World} {pool : Worker.Pool} {i : Nat}
  {tag : UInt64} {o : Amqp.Occurrence} {old new : Processing.Task}

/-! ### The accounts -/

/-- A question of a worker changes what this worker owes about the message it serves. -/
theorem Turn.owing (h : Turn c s.world i tag o old new w')
    (hasks : s.pool.workers[i]? = some (.handling tag old))
    (hpool : pool.workers = s.pool.workers.set i (.handling tag new)) (d : Debt) (p : Nat → Bool) :
    Pipeline.owing ⟨w', pool⟩ d p +
        (if p (s.world.serving i) = true ∧ debt? (.handling tag old) = some d then 1 else 0) =
      s.owing d p +
        (if p (s.world.serving i) = true ∧ debt? (.handling tag new) = some d then 1 else 0) := by
  have howing := owing_set hasks hpool (fun j _ => by rw [h.serving_eq]) d p
  rwa [h.serving_eq] at howing

/-- A question of a worker keeps the accounts balanced. -/
theorem Turn.balanced (h : Turn c s.world i tag o old new w')
    (hasks : s.pool.workers[i]? = some (.handling tag old))
    (hpool : pool.workers = s.pool.workers.set i (.handling tag new)) (hs : s.Balanced p) :
    Balanced ⟨w', pool⟩ p := by
  have hpublish := h.owing hasks hpool .publish p
  have hdelivered := h.owing hasks hpool (.report .delivered) p
  have hdead := h.owing hasks hpool (.report .deadLettered) p
  have hlost := h.owing hasks hpool (.report .lost) p
  rw [balanced_iff, live, ended, ended, ended] at hs ⊢
  rw [h.accepted_eq]
  cases h with
  | counted m hold hnew replied tracked hm =>
    simp only [debt?_of_unsettled hold, debt?_of_unsettled hnew, reduceCtorEq, and_false,
      ↓reduceIte, Nat.add_zero, World.inQueue_recount, World.unsettled_recount, World.reported_recount]
      at hpublish hdelivered hdead hlost ⊢
    omega
  | heard reply hold hnew replied tracked =>
    simp only [debt?_of_unsettled hold, debt?_of_unsettled hnew, reduceCtorEq, and_false,
      ↓reduceIte, Nat.add_zero, World.inQueue_hear, World.unsettled_hear, World.reported_hear]
      at hpublish hdelivered hdead hlost ⊢
    omega
  | kept hold =>
    simp only [debt?_of_unsettled hold, debt?_report, Outcome.fate?, Option.map_none, reduceCtorEq,
      and_false, ↓reduceIte, Nat.add_zero] at hpublish hdelivered hdead hlost ⊢
    omega
  | delivered hold before after copy receipt hid hheld vouched =>
    -- from unsettled to an end that is still to be reported
    have hsettle := s.world.unsettled_settle p hheld
    simp only [debt?_of_unsettled hold, debt?_report, Outcome.fate?, Option.map_some,
      Option.some.injEq, Debt.report.injEq, reduceCtorEq, and_true, and_false, ↓reduceIte,
      Nat.add_zero, hid, World.inQueue_settle, World.reported_settle]
      at hpublish hdelivered hdead hlost hsettle ⊢
    omega
  | released hold before after copy next hid hheld =>
    -- from unsettled into the memory of the worker
    have hsettle := s.world.unsettled_settle p hheld
    simp only [debt?_of_unsettled hold, debt?_republishAndReport, Option.some.injEq, reduceCtorEq,
      and_true, and_false, ↓reduceIte, Nat.add_zero, hid, World.inQueue_settle,
      World.reported_settle] at hpublish hdelivered hdead hlost hsettle ⊢
    omega
  | rejected hold before after copy reason hid hheld =>
    -- from unsettled to the dead-letter queue, with the report still to come
    have hsettle := s.world.unsettled_settle p hheld
    simp only [debt?_of_unsettled hold, debt?_report, Outcome.fate?, Option.map_some,
      Option.some.injEq, Debt.report.injEq, reduceCtorEq, and_true, and_false, true_and, false_and,
      ↓reduceIte, Nat.add_zero, hid, World.inQueue_put, World.inQueue_settle, World.unsettled_put,
      World.reported_put, World.reported_settle] at hpublish hdelivered hdead hlost hsettle ⊢
    omega
  | republished next =>
    -- from the memory of the worker into the retry queue
    simp only [debt?_republishAndReport, debt?_report, Outcome.fate?, Option.map_none,
      Option.some.injEq, reduceCtorEq, and_true, and_false, true_and, false_and, ↓reduceIte,
      Nat.add_zero, World.inQueue_put, World.unsettled_put, World.reported_put]
      at hpublish hdelivered hdead hlost ⊢
    omega
  | lost next =>
    -- from the memory of the worker to an end that is still to be reported
    simp only [debt?_republishAndReport, debt?_report, Outcome.fate?, Option.map_some,
      Option.some.injEq, Debt.report.injEq, reduceCtorEq, and_true, and_false, ↓reduceIte,
      Nat.add_zero] at hpublish hdelivered hdead hlost ⊢
    omega
  | reported outcome vouched =>
    -- an end that was to be reported now is
    cases outcome <;>
      simp only [debt?_report, debt?_done, Outcome.fate?, Metrics.Event.fate?, Option.map_some,
        Option.map_none, Option.some.injEq, Debt.report.injEq, reduceCtorEq, and_true, and_false,
        ↓reduceIte, Nat.add_zero, World.inQueue_count, World.unsettled_count, World.reported_count]
        at hpublish hdelivered hdead hlost ⊢ <;>
      omega

/-- What is owed depends on the workers and on whom they serve alone. -/
theorem owing_congr (hserving : w'.serving = s.world.serving) (d : Debt) (p : Nat → Bool) :
    Pipeline.owing ⟨w', s.pool⟩ d p = s.owing d p := by
  simp only [Pipeline.owing, hserving]

/-- The accounts stay balanced when nothing is accepted, owed or reported and copies only move. -/
theorem Balanced.congr {s' : Pipeline} (hs : s.Balanced p)
    (haccepted : s'.world.accepted = s.world.accepted)
    (howing : ∀ d, s'.owing d p = s.owing d p)
    (hreported : ∀ fate, s'.world.reported fate p = s.world.reported fate p)
    (hdead : s'.world.inQueue .deadLetter p = s.world.inQueue .deadLetter p)
    (hcopies : s'.world.inQueue .main p + s'.world.inQueue .retry p + s'.world.unsettled p =
      s.world.inQueue .main p + s.world.inQueue .retry p + s.world.unsettled p) :
    s'.Balanced p := by
  rw [balanced_iff, live, ended, ended, ended] at hs ⊢
  rw [haccepted, howing, howing, howing, howing, hreported, hreported, hreported, hdead]
  omega

/-- Accepting a notification opens an account with one copy. -/
theorem balanced_accept (hc : c.validate = .ok ()) (n : Notification) (hs : s.Balanced p) :
    Balanced { s with world := s.world.accept c n } p := by
  have haccept : s.world.accept c n = (s.world.enter n).put .main
      ⟨s.world.accepted.length, (Publishing.messageOf c.publishing n).occurrence⟩ :=
    World.store_main _ hc _
  have hrange : (List.range ((s.world.accepted ++ [n]).length)).countP p =
      (List.range s.world.accepted.length).countP p +
        if p s.world.accepted.length = true then 1 else 0 := by
    rw [List.length_append, List.length_singleton, List.range_succ, List.countP_append,
      List.countP_singleton]
  have hserving : (s.world.accept c n).serving = s.world.serving := by rw [haccept]; rfl
  have howing := fun d => owing_congr hserving d p
  rw [balanced_iff, live, ended, ended, ended] at hs ⊢
  rw [howing, howing, howing, howing, haccept]
  show _ = (List.range ((s.world.accepted ++ [n]).length)).countP p ∧ _
  rw [hrange]
  simp only [World.inQueue_put, World.inQueue_enter, World.unsettled_put, World.unsettled_enter,
    World.reported_put, World.reported_enter, reduceCtorEq, true_and, false_and, ↓reduceIte,
    Nat.add_zero]
  omega

/-- A copy that is handed out is unsettled. -/
theorem balanced_deliver {before after : List Copy} {copy : Copy}
    (hqueued : s.world.queues .main = before ++ copy :: after)
    (htakes : s.pool.step? c.processing (.deliver i tag copy.occurrence) = some pool)
    (hs : s.Balanced p) :
    Balanced ⟨(s.world.refill .main (before ++ after)).hand i tag copy, pool⟩ p := by
  obtain ⟨hidle, hpool⟩ := workers_of_deliver htakes
  have hmain := s.world.inQueue_refill p hqueued .main
  have hretry := s.world.inQueue_refill p hqueued .retry
  have hdead := s.world.inQueue_refill p hqueued .deadLetter
  refine hs.congr rfl (fun d => ?_) (fun fate => rfl) ?_ ?_
  · have howing := owing_set (w := (s.world.refill .main (before ++ after)).hand i tag copy) hidle
      hpool (fun j hj => Function.update_of_ne hj _ _) d p
    have hold : debt? .idle = none := rfl
    have hnew : debt? (.handling tag (Processing.process c.processing copy.occurrence)) = none :=
      debt?_of_unsettled (Processing.unsettled_process _ _)
    rw [hold, hnew] at howing
    simpa using howing
  · simpa using hdead
  · simp only [World.inQueue_hand, World.unsettled_hand, World.unsettled_refill, reduceCtorEq,
      true_and, false_and, ↓reduceIte, Nat.add_zero] at hmain hretry ⊢
    omega

/-- A channel that goes away gives its copies back. -/
theorem balanced_drop (hs : s.Balanced p) : Balanced { s with world := s.world.drop i } p := by
  have hmain := s.world.inQueue_drop p i
  have hretry := s.world.inQueue_drop_of_ne p i (q := .retry) (by decide)
  have hdead := s.world.inQueue_drop_of_ne p i (q := .deadLetter) (by decide)
  refine hs.congr rfl (fun d => rfl) (fun fate => rfl) hdead ?_
  show (s.world.drop i).inQueue .main p + (s.world.drop i).inQueue .retry p +
    (s.world.drop i).unsettled p = _
  omega

/-- A copy that expires goes from the retry queue to the main queue. -/
theorem balanced_expire (hc : c.validate = .ok ()) {arguments : Amqp.Table}
    {before after : List Copy} {copy : Copy}
    (hdeclared : Topology.retryQueueArguments c.topology = .ok arguments)
    (hqueued : s.world.queues .retry = before ++ copy :: after) (hs : s.Balanced p) :
    Balanced { s with
      world := (s.world.refill .retry (before ++ after)).expel c arguments copy } p := by
  rw [World.expel_retry _ hc hdeclared]
  have hmain := s.world.inQueue_refill p hqueued .main
  have hretry := s.world.inQueue_refill p hqueued .retry
  have hdead := s.world.inQueue_refill p hqueued .deadLetter
  refine hs.congr rfl (fun d => rfl) (fun fate => rfl) ?_ ?_
  · simpa using hdead
  · simp only [World.inQueue_put, World.unsettled_put, World.unsettled_refill, reduceCtorEq,
      true_and, false_and, ↓reduceIte, Nat.add_zero] at hmain hretry ⊢
    omega

/-- An event that touches no message moves nothing. -/
theorem balanced_manage {e : Worker.Pool.Event} (hquiet : isQuiet e = true)
    (hgoes : s.pool.step? c.processing e = some pool) (hs : s.Balanced p) :
    Balanced { s with pool := pool } p := by
  refine hs.congr rfl (fun d => ?_) (fun fate => rfl) rfl rfl
  rcases workers_of_quiet hquiet hgoes with hsame | ⟨j, old, new, hget, hset, hold, hnew⟩
  · simp only [Pipeline.owing, hsame]
  · have howing := owing_set (w := s.world) hget hset (fun _ _ => rfl) d p
    have hnone : debt? new = none := by
      cases new with
      | handling tag task => exact absurd rfl (hnew tag task)
      | _ => rfl
    rw [hold, hnone] at howing
    simpa using howing

/-! ### The invariant -/

/-- The accounts are balanced, the counters agree with them, every reported delivery was vouched for
by the provider, every copy is one of an accepted notification, and every worker is where it can
be. -/
structure Sound (c : Config) (s : Pipeline) : Prop where
  balanced : ∀ p, s.Balanced p
  counters : ∀ fate,
    s.world.metrics.tally fate = UInt64.ofNat (s.world.reported fate fun _ => true)
  vouched : ∀ r ∈ s.world.reports, s.world.Vouched c r.1 r.2
  genuine : ∀ copy, s.world.Has copy → s.world.Genuine copy.id copy.occurrence
  manned : ∀ i phase, s.pool.workers[i]? = some phase → Manned c s.world i phase

theorem Sound.start (c : Config) (workers : Nat) : (Pipeline.start workers).Sound c where
  balanced p := by
    have howing : ∀ d, (Pipeline.start workers).owing d p = 0 := fun d => by
      refine List.countP_eq_zero.2 fun i _ => ?_
      rw [Pipeline.start, Worker.Pool.start, List.getElem?_replicate]
      split <;> simp [debt?]
    rw [balanced_iff, live, ended, ended, ended, howing, howing, howing, howing]
    exact ⟨rfl, rfl⟩
  counters fate := by cases fate <;> rfl
  vouched := by rintro _ ⟨⟩
  genuine copy h := by
    rcases h with ⟨q, h⟩ | ⟨h, hmem, -⟩
    · cases h
    · cases hmem
  manned i phase h := by
    obtain rfl := List.eq_of_mem_replicate (List.mem_of_getElem? h)
    trivial

namespace Turn

/-- A question counts an end of a message exactly if it reports one. -/
theorem counters (h : Turn c s.world i tag o old new w')
    (hs : ∀ fate, s.world.metrics.tally fate =
      UInt64.ofNat (s.world.reported fate fun _ => true)) (fate : Fate) :
    w'.metrics.tally fate = UInt64.ofNat (w'.reported fate fun _ => true) := by
  cases h with
  | counted m _ _ _ _ hm => exact (hm fate).trans (hs fate)
  | reported outcome _ =>
    rw [World.reported_count]
    show (s.world.metrics.record (.outcome outcome)).tally fate = _
    rw [Metrics.tally_record, hs fate, UInt64.ofNat_add]
    by_cases hf : (Metrics.Event.outcome outcome).fate? = some fate <;> simp [hf]
  | _ => exact hs fate

/-- A question reports a delivery only if the provider vouched for it. -/
theorem vouched {w : World} (h : Turn c w i tag o old new w')
    (hw : ∀ r ∈ w.reports, w.Vouched c r.1 r.2) : ∀ r ∈ w'.reports, w'.Vouched c r.1 r.2 := by
  have hreplies := h.replies_subset
  have hold : ∀ r ∈ w.reports, w'.Vouched c r.1 r.2 := fun r hr => (hw r hr).mono hreplies
  cases h with
  | reported outcome houtcome =>
    intro r hr
    rcases List.mem_cons.1 hr with rfl | hr
    · exact houtcome.mono hreplies
    · exact hold r hr
  | _ => exact hold

/-- A question leaves nothing but copies of accepted notifications. -/
theorem genuine {w : World} (h : Turn c w i tag o old new w') (ho : w.Genuine (w.serving i) o)
    (hw : ∀ copy, w.Has copy → w.Genuine copy.id copy.occurrence) (x : Copy) (hx : w'.Has x) :
    w'.Genuine x.id x.occurrence := by
  have hsubset := h.held_subset
  cases h with
  | delivered _ _ _ _ _ _ _ _ => exact hw x (World.has_settle hsubset hx)
  | released _ _ _ _ _ _ _ => exact hw x (World.has_settle hsubset hx)
  | rejected _ before after copy _ _ hheld =>
    -- the copy in the dead-letter queue is the one that was unsettled
    rcases World.has_put hx with hx | rfl
    · exact hw x (World.has_settle hsubset hx)
    · refine hw x (.inr ⟨⟨i, tag, x⟩, ?_, rfl⟩)
      rw [hheld]
      exact List.mem_append_right _ List.mem_cons_self
  | republished next =>
    rcases World.has_put hx with hx | rfl
    · exact hw x hx
    · obtain ⟨n, hget, hcarries⟩ := ho
      exact ⟨n, hget, hcarries.retryOf _ next⟩
  | _ => exact hw x hx

end Turn

namespace Sound

theorem accept (hc : c.validate = .ok ()) (hs : s.Sound c) (n : Notification) :
    Sound c { s with world := s.world.accept c n } := by
  have haccept : s.world.accept c n = (s.world.enter n).put .main
      ⟨s.world.accepted.length, (Publishing.messageOf c.publishing n).occurrence⟩ :=
    World.store_main _ hc _
  have hextends : s.world.accepted <+: (s.world.accept c n).accepted := by
    rw [haccept]
    exact List.prefix_append _ _
  refine ⟨fun p => balanced_accept hc n (hs.balanced p), ?_, ?_, ?_, ?_⟩
  · rw [haccept]
    exact hs.counters
  · rw [haccept]
    exact hs.vouched
  · intro x hx
    rw [haccept] at hx
    rcases World.has_put hx with hx | rfl
    · exact (hs.genuine x hx).mono hextends
    · refine ⟨n, ?_, carries_messageOf _ n⟩
      rw [haccept]
      exact List.getElem?_concat_length
  · intro i phase hget
    refine (hs.manned i phase hget).mono hextends ?_ ?_ ?_
    · rw [haccept]
      rfl
    · rw [haccept]
      exact List.Subset.refl _
    · rw [haccept]
      exact fun _ h _ => h

theorem intake {e : Metrics.Event} (he : e = .published ∨ e = .publishFailure) (hs : s.Sound c) :
    Sound c { s with world := s.world.recount (s.world.metrics.record e) } where
  balanced p := (hs.balanced p).congr rfl (fun _ => rfl) (fun _ => rfl) rfl rfl
  counters fate := by
    have hne : ∀ outcome, e ≠ .outcome outcome := by rintro outcome rfl; simp at he
    exact (tally_record_of_ne hne _ fate).trans (hs.counters fate)
  vouched := hs.vouched
  genuine := hs.genuine
  manned i phase hget :=
    (hs.manned i phase hget).mono List.prefix_rfl rfl (List.Subset.refl _) fun _ h _ => h

theorem deliver {before after : List Copy} {copy : Copy}
    (hqueued : s.world.queues .main = before ++ copy :: after)
    (hfresh : ∀ h ∈ s.world.held, h.worker = i → h.tag ≠ tag)
    (htakes : s.pool.step? c.processing (.deliver i tag copy.occurrence) = some pool)
    (hs : s.Sound c) :
    Sound c ⟨(s.world.refill .main (before ++ after)).hand i tag copy, pool⟩ := by
  have hcopy : s.world.Has copy :=
    .inl ⟨.main, by rw [hqueued]; exact List.mem_append_right _ List.mem_cons_self⟩
  refine ⟨fun p => balanced_deliver hqueued htakes (hs.balanced p), hs.counters, hs.vouched, ?_, ?_⟩
  · intro x hx
    rcases World.has_hand hx with hx | rfl
    · exact hs.genuine x (World.has_refill hqueued hx)
    · exact hs.genuine x hcopy
  · have hserving : ∀ j, j ≠ i →
        ((s.world.refill .main (before ++ after)).hand i tag copy).serving j = s.world.serving j :=
      fun j hj => Function.update_of_ne hj _ _
    have hself : ((s.world.refill .main (before ++ after)).hand i tag copy).serving i = copy.id :=
      Function.update_self ..
    obtain ⟨-, hpool⟩ := workers_of_deliver htakes
    rw [hpool]
    refine forall_getElem?_set ?_ fun j phase hj hget => ?_
    · refine ⟨copy.occurrence, ?_,
        .unsettled (Processing.unsettled_process _ _) (by rintro _ ⟨⟩) ?_⟩
      · rw [hself]
        exact hs.genuine copy hcopy
      · -- the tag is new, so no other delivery of this worker goes by it
        intro h hmem hworker htag
        rw [hself]
        rcases List.mem_cons.1 hmem with rfl | hmem
        · rfl
        · exact absurd htag (hfresh h hmem hworker)
    · refine (hs.manned j phase hget).mono List.prefix_rfl (hserving j hj) (List.Subset.refl _)
        fun h hmem hworker => ?_
      rcases List.mem_cons.1 hmem with rfl | hmem
      · exact absurd hworker.symm hj
      · exact hmem

theorem handle (hc : c.validate = .ok ()) {a : Processing.Action}
    {next : a.Answer → Processing.Task} {answers : (a : Processing.Action) → a.Answer}
    (hasks : s.pool.workers[i]? = some (.handling tag (.ask a next)))
    (hreacts : World.Reacts c s.world i tag a (answers a) w')
    (hgoes : s.pool.step? c.processing (.handle i answers) = some pool) (hs : s.Sound c) :
    Sound c ⟨w', pool⟩ := by
  obtain ⟨o, hgenuine, hprogress⟩ := hs.manned i _ hasks
  have hturn := turn_of_reacts hc hprogress hreacts
  have hpool := workers_of_handle hasks hgoes
  have hextends : s.world.accepted <+: w'.accepted := hturn.accepted_eq ▸ List.prefix_rfl
  refine ⟨fun p => hturn.balanced hasks hpool (hs.balanced p), hturn.counters hs.counters,
    hturn.vouched hs.vouched, hturn.genuine hgenuine hs.genuine, ?_⟩
  rw [hpool]
  refine forall_getElem?_set ⟨o, ?_, hturn.progress⟩ fun j phase _ hget => ?_
  · rw [hturn.serving_eq]
    exact hgenuine.mono hextends
  · exact (hs.manned j phase hget).mono hextends (by rw [hturn.serving_eq]) hturn.replies_subset
      fun h hmem _ => hturn.held_subset hmem

theorem manage {e : Worker.Pool.Event} (hquiet : isQuiet e = true)
    (hgoes : s.pool.step? c.processing e = some pool) (hs : s.Sound c) :
    Sound c { s with pool := pool } := by
  refine ⟨fun p => balanced_manage hquiet hgoes (hs.balanced p), hs.counters, hs.vouched,
    hs.genuine, ?_⟩
  rcases workers_of_quiet hquiet hgoes with hsame | ⟨j, old, new, -, hset, -, hnew⟩
  · rw [hsame]
    exact hs.manned
  · rw [hset]
    refine forall_getElem?_set ?_ fun k phase _ hget => hs.manned k phase hget
    cases new with
    | handling tag task => exact absurd rfl (hnew tag task)
    | _ => trivial

theorem drop (hs : s.Sound c) (i : Nat) : Sound c { s with world := s.world.drop i } where
  balanced p := balanced_drop (hs.balanced p)
  counters := hs.counters
  vouched := hs.vouched
  genuine x hx := hs.genuine x (World.has_drop hx)
  manned j phase hget := (hs.manned j phase hget).mono List.prefix_rfl rfl (List.Subset.refl _)
    fun _ hmem _ => (List.mem_filter.1 hmem).1

theorem expire (hc : c.validate = .ok ()) {arguments : Amqp.Table} {before after : List Copy}
    {copy : Copy} (hdeclared : Topology.retryQueueArguments c.topology = .ok arguments)
    (hqueued : s.world.queues .retry = before ++ copy :: after) (hs : s.Sound c) :
    Sound c { s with
      world := (s.world.refill .retry (before ++ after)).expel c arguments copy } := by
  have hbalanced := fun p => balanced_expire hc hdeclared hqueued (hs.balanced p)
  rw [World.expel_retry _ hc hdeclared] at hbalanced ⊢
  refine ⟨hbalanced, hs.counters, hs.vouched, fun x hx => ?_, fun j phase hget => ?_⟩
  · rcases World.has_put hx with hx | rfl
    · exact hs.genuine x (World.has_refill hqueued hx)
    · exact hs.genuine x
        (.inl ⟨.retry, by rw [hqueued]; exact List.mem_append_right _ List.mem_cons_self⟩)
  · exact (hs.manned j phase hget).mono List.prefix_rfl rfl (List.Subset.refl _) fun _ h _ => h

/-- Every step keeps the invariant. -/
theorem step {s' : Pipeline} (hc : c.validate = .ok ()) (hs : s.Sound c) (h : Step c s s') :
    s'.Sound c := by
  cases h with
  | accept n => exact hs.accept hc n
  | intake e counted => exact hs.intake counted
  | deliver i tag before after copy pool queued alive fresh takes =>
    exact hs.deliver queued fresh takes
  | handle i tag a next answers world pool asks reacts goes => exact hs.handle hc asks reacts goes
  | manage e pool quiet goes => exact hs.manage quiet goes
  | drop i => exact hs.drop i
  | expire arguments before after copy declared queued => exact hs.expire hc declared queued

end Sound

theorem Reachable.sound {workers : Nat} (hc : c.validate = .ok ()) (h : Reachable c workers s) :
    s.Sound c := by
  induction h with
  | start => exact .start c workers
  | step _ hstep ih => exact ih.step hc hstep

/-! ### The result -/

/-- What is promised about the accepted notifications. -/
structure Conserved (c : Config) (s : Pipeline) : Prop where
  /-- No message has two live copies. -/
  alive : ∀ id, s.live (· == id) ≤ 1
  /-- An accepted message has one live copy, or it ended once and in one way. -/
  once : ∀ id < s.world.accepted.length, s.live (· == id) + (s.ended .delivered (· == id) +
    s.ended .deadLettered (· == id) + s.ended .lost (· == id)) = 1
  /-- All together they are the accepted ones. -/
  all : s.live (fun _ => true) + (s.ended .delivered (fun _ => true) +
    s.ended .deadLettered (fun _ => true) + s.ended .lost (fun _ => true)) =
      s.world.accepted.length
  /-- Every copy in a queue or unsettled carries an accepted notification. -/
  genuine : ∀ copy, s.world.Has copy → s.world.Genuine copy.id copy.occurrence
  /-- So does the copy that a worker is about to publish. -/
  retry : ∀ i tag m next, s.pool.workers[i]? = some (.handling tag (.ask (.publish m) next)) →
    s.world.Genuine (s.world.serving i) m.occurrence
  /-- The dead-letter queue holds the messages that ended there, once each. -/
  deadLetters : ∀ id, s.world.inQueue .deadLetter (· == id) = s.ended .deadLettered (· == id)
  /-- Of a message that was delivered, the provider said so in time. -/
  delivered : ∀ id outcome, s.Tells id outcome → s.world.Vouched c id outcome
  /-- The counters tell how many messages were reported to have ended in each way. -/
  counters : ∀ fate,
    s.world.metrics.tally fate = UInt64.ofNat (s.world.reported fate fun _ => true)

/-- The numbers of the accepted notifications are different. -/
theorem countP_range_eq (id n : Nat) :
    (List.range n).countP (· == id) = if id < n then 1 else 0 := by
  by_cases h : id < n
  · rw [if_pos h]
    exact List.count_eq_one_of_mem List.nodup_range (List.mem_range.2 h)
  · rw [if_neg h]
    exact List.count_eq_zero_of_not_mem fun hmem => h (List.mem_range.1 hmem)

/-- **No loss and no duplication.**  Whatever the workers, the provider and the broker do, an
accepted notification has one live copy until it ended once: it was delivered, it is in the
dead-letter queue, or it was lost on the way to a retry and counted so. -/
theorem conserved {workers : Nat} (hc : c.validate = .ok ()) (h : Reachable c workers s) :
    s.Conserved c where
  alive id := by
    -- a number that no message has yet belongs to no copy either
    have haccepted := ((h.sound hc).balanced (· == id)).accepted
    rw [countP_range_eq] at haccepted
    split at haccepted <;> omega
  once id hid := by
    have haccepted := ((h.sound hc).balanced (· == id)).accepted
    rw [countP_range_eq, if_pos hid] at haccepted
    omega
  all := by
    have haccepted := ((h.sound hc).balanced fun _ => true).accepted
    rw [List.countP_true, List.length_range] at haccepted
    omega
  genuine := (h.sound hc).genuine
  retry i tag m next hget := by
    obtain ⟨o, ⟨n, haccepted, hcarries⟩, hprogress⟩ := (h.sound hc).manned i _ hget
    -- before its settlement a worker has nothing to publish
    cases hprogress with
    | unsettled htask _ _ => cases htask
    | republishing count => exact ⟨n, haccepted, hcarries.retryOf _ count⟩
  delivered id outcome htells := by
    rcases htells with hreported | ⟨i, tag, next, rfl, hget⟩
    · exact (h.sound hc).vouched _ hreported
    · obtain ⟨o, -, hprogress⟩ := (h.sound hc).manned i _ hget
      cases hprogress with
      | unsettled htask _ _ =>
        cases htask with
        | count _ _ hne _ => exact absurd rfl (hne _)
      | reporting _ hvouched => exact hvouched
  deadLetters id := ((h.sound hc).balanced (· == id)).deadLetters
  counters := (h.sound hc).counters

/-- A configuration with one worker and three retries. -/
def modest : Config where
  rabbitmqUrl := "amqp://localhost"
  mainExchange := "main"
  retryExchange := "retry"
  deadLetterExchange := "dead"
  mainQueue := "push"
  retryQueue := "push.retry"
  deadLetterQueue := "push.dead"
  mainRoutingKey := "push"
  retryRoutingKey := "again"
  deadLetterRoutingKey := "dead"
  workerCount := 1
  prefetchCount := 1
  retryDelayMs := 1000
  maxRetries := 3
  defaultPushToken := some "device"
  deliveryTimeoutMs := 1000
  fcmProjectId := ""
  fcmBaseUrl := ""
  serverPort := 80
  publishBuffer := 1
  shutdownGraceMs := 1000

/-- A notification for the default device. -/
def notice : Notification where
  medium := .push
  token := none
  userId := none
  templateCode := ""
  values := .none
  requestId := "r"
  priority := 0
  metadata := .empty

/-- What a worker is handed of it. -/
def noticed : Amqp.Occurrence := (Publishing.messageOf modest.publishing notice).occurrence

theorem noticed_addressed : Processing.Addressed modest.processing noticed.body "device" notice :=
  ⟨by decide +kernel, rfl, by decide +kernel⟩

/-- A provider that refuses, and a broker that gets everything. -/
def refusing (a : Processing.Action) : a.Answer :=
  match a with
  | .count _ => ()
  | .send .. => ⟨0, .error (.rejected 503 "")⟩
  | .settle _ => .ok ()
  | .publish _ => .ok ()

/-- The task of the worker that is handed it. -/
theorem process_noticed : Processing.process modest.processing noticed =
    .ask (.count .received) fun _ =>
      (Processing.attempt modest.processing noticed "device" notice).bind Processing.report := by
  rw [Processing.process, Processing.handle_of_addressed noticed_addressed]
  rfl

/-- A worker that acknowledged a message for its retry holds the only copy of it. -/
theorem conserved_released : ∃ s, modest.validate = .ok () ∧ Reachable modest 1 s ∧
    s.Conserved modest ∧
    s.owing .publish (· == 0) = 1 ∧ s.world.unsettled (· == 0) = 0 := by
  have empty : Reachable modest 1 (Pipeline.start 1) := .start
  have accepted := empty.step (.accept notice)
  have handed := accepted.step (.deliver 0 1 [] [] ⟨0, noticed⟩ _ rfl rfl (by rintro _ ⟨⟩)
    (congrArg (fun task => some (Worker.Pool.mk false [.handling 1 task])) process_noticed))
  have begun := handed.step (.handle 0 1 _ _ refusing _ _ rfl (.count .received) rfl)
  have sent := begun.step (.handle 0 1 _ _ refusing _ _ rfl (.send "device" notice _) rfl)
  have failed := sent.step (.handle 0 1 _ _ refusing _ _ rfl (.count .deliveryFailure) rfl)
  have released := failed.step
    (.handle 0 1 _ _ refusing _ _ rfl (.acknowledged [] [] ⟨0, noticed⟩ rfl rfl) rfl)
  have valid : modest.validate = .ok () := by decide +kernel
  exact ⟨_, valid, released, conserved valid released, rfl, rfl⟩

end Pipeline

end Courier
