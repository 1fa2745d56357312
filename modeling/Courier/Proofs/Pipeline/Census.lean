import Courier.Proofs.Lists
import Courier.Proofs.Pipeline.Basic

/-!
# The census of the pipeline

What every change of the world and of the workers does to the numbers of copies and of ended
messages.

* `Pipeline.owing_set` : the count over the workers when one of them goes on.
* `Pipeline.World.store_main`, `Pipeline.World.store_retry`, `Pipeline.World.expel_main`,
  `Pipeline.World.expel_retry` : in a valid configuration every route leads into one queue.
* `Metrics.tally_record` : what an event does to the counters of ended messages.
-/

namespace Courier

/-- An event counts for the way in which it tells of an end, and for no other. -/
theorem Metrics.tally_record (m : Metrics) (e : Metrics.Event) (fate : Fate) :
    (m.record e).tally fate = m.tally fate + if e.fate? = some fate then 1 else 0 := by
  cases e with
  | outcome o =>
    cases o with
    | deadLettered reason =>
      cases fate with
      | deadLettered =>
        cases reason <;>
          simp only [record, recordOutcome, recordDeadLetter, tally, Event.fate?, Outcome.fate?,
            if_true] <;> ac_rfl
      | _ => simp [record, recordOutcome, tally, Event.fate?, Outcome.fate?]
    | _ => cases fate <;> simp [record, recordOutcome, tally, Event.fate?, Outcome.fate?]
  | _ => cases fate <;> simp [record, tally, Event.fate?]

namespace Pipeline

/-! ### The world -/

namespace World

variable (w : World) (p : Nat → Bool)

@[simp] theorem inQueue_put (q q' : Topology.Queue) (copy : Copy) :
    (w.put q copy).inQueue q' p =
      w.inQueue q' p + if q' = q ∧ p copy.id = true then 1 else 0 := by
  by_cases hq : q' = q
  · subst hq
    simp [inQueue, put, List.countP_append, List.countP_singleton]
  · simp [inQueue, put, hq]

@[simp] theorem unsettled_put (q : Topology.Queue) (copy : Copy) :
    (w.put q copy).unsettled p = w.unsettled p := rfl

@[simp] theorem reported_put (q : Topology.Queue) (copy : Copy) (fate : Fate) :
    (w.put q copy).reported fate p = w.reported fate p := rfl

/-- A copy that leaves a queue is missing there and nowhere else. -/
theorem inQueue_refill {q : Topology.Queue} {before after : List Copy} {copy : Copy}
    (h : w.queues q = before ++ copy :: after) (q' : Topology.Queue) :
    (w.refill q (before ++ after)).inQueue q' p + (if q' = q ∧ p copy.id = true then 1 else 0) =
      w.inQueue q' p := by
  by_cases hq : q' = q
  · subst hq
    simp only [inQueue, refill, Function.update_self, h, List.countP_append, List.countP_cons,
      true_and]
    omega
  · simp [inQueue, refill, hq]

@[simp] theorem inQueue_enter (n : Notification) (q : Topology.Queue) :
    (w.enter n).inQueue q p = w.inQueue q p := rfl

@[simp] theorem unsettled_enter (n : Notification) : (w.enter n).unsettled p = w.unsettled p := rfl

@[simp] theorem reported_enter (n : Notification) (fate : Fate) :
    (w.enter n).reported fate p = w.reported fate p := rfl

@[simp] theorem unsettled_refill (q : Topology.Queue) (copies : List Copy) :
    (w.refill q copies).unsettled p = w.unsettled p := rfl

@[simp] theorem inQueue_settle (held : List Held) (q : Topology.Queue) :
    (w.settle held).inQueue q p = w.inQueue q p := rfl

@[simp] theorem reported_settle (held : List Held) (fate : Fate) :
    (w.settle held).reported fate p = w.reported fate p := rfl

/-- A settled copy is unsettled no more. -/
theorem unsettled_settle {before after : List Held} {h : Held}
    (hheld : w.held = before ++ h :: after) :
    (w.settle (before ++ after)).unsettled p + (if p h.copy.id = true then 1 else 0) =
      w.unsettled p := by
  simp only [unsettled, settle, hheld, List.countP_append, List.countP_cons]
  omega

@[simp] theorem inQueue_recount (m : Metrics) (q : Topology.Queue) :
    (w.recount m).inQueue q p = w.inQueue q p := rfl

@[simp] theorem unsettled_recount (m : Metrics) : (w.recount m).unsettled p = w.unsettled p := rfl

@[simp] theorem reported_recount (m : Metrics) (fate : Fate) :
    (w.recount m).reported fate p = w.reported fate p := rfl

@[simp] theorem inQueue_hear (i : Nat) (reply : Processing.Reply) (q : Topology.Queue) :
    (w.hear i reply).inQueue q p = w.inQueue q p := rfl

@[simp] theorem unsettled_hear (i : Nat) (reply : Processing.Reply) :
    (w.hear i reply).unsettled p = w.unsettled p := rfl

@[simp] theorem reported_hear (i : Nat) (reply : Processing.Reply) (fate : Fate) :
    (w.hear i reply).reported fate p = w.reported fate p := rfl

@[simp] theorem inQueue_hand (i : Nat) (tag : UInt64) (copy : Copy) (q : Topology.Queue) :
    (w.hand i tag copy).inQueue q p = w.inQueue q p := rfl

@[simp] theorem unsettled_hand (i : Nat) (tag : UInt64) (copy : Copy) :
    (w.hand i tag copy).unsettled p = w.unsettled p + if p copy.id = true then 1 else 0 := by
  simp only [unsettled, hand, List.countP_cons]

@[simp] theorem reported_count (i : Nat) (e : Metrics.Event) (fate : Fate) :
    (w.count i e).reported fate p =
      w.reported fate p + if p (w.serving i) = true ∧ e.fate? = some fate then 1 else 0 := by
  cases e with
  | outcome o =>
    simp only [reported, count, Metrics.Event.fate?, List.countP_cons, Bool.and_eq_true, beq_iff_eq]
    congr
  | _ => simp [reported, count, Metrics.Event.fate?]

@[simp] theorem inQueue_count (i : Nat) (e : Metrics.Event) (q : Topology.Queue) :
    (w.count i e).inQueue q p = w.inQueue q p := rfl

@[simp] theorem unsettled_count (i : Nat) (e : Metrics.Event) :
    (w.count i e).unsettled p = w.unsettled p := rfl

/-- What the broker takes back from a worker goes to no other queue. -/
theorem inQueue_drop_of_ne (i : Nat) {q : Topology.Queue} (h : q ≠ .main) :
    (w.drop i).inQueue q p = w.inQueue q p := by
  simp only [inQueue, drop, Function.update_of_ne h]

/-- What the broker takes back from a worker is in the main queue again. -/
theorem inQueue_drop (i : Nat) :
    (w.drop i).inQueue .main p + (w.drop i).unsettled p = w.inQueue .main p + w.unsettled p := by
  have hsplit := List.countP_eq_countP_filter_add w.held (fun h => p h.copy.id)
    (fun h => h.worker == i)
  simp only [inQueue, unsettled, drop, Function.update_self, List.countP_append, List.countP_map,
    Function.comp_def, bne]
  omega

variable {c : Config}

/-- An accepted notification goes into the main queue. -/
theorem store_main (h : c.validate = .ok ()) (copy : Copy) :
    w.store c c.mainExchange c.mainRoutingKey copy = w.put .main copy := by
  rw [store, Config.queuesOf_main h]
  rfl

/-- A retry goes into the retry queue. -/
theorem store_retry (h : c.validate = .ok ()) (copy : Copy) :
    w.store c c.retryExchange c.retryRoutingKey copy = w.put .retry copy := by
  rw [store, Config.queuesOf_retry h]
  rfl

/-- A rejected copy goes into the dead-letter queue. -/
theorem expel_main (h : c.validate = .ok ()) (copy : Copy) :
    w.expel c (Topology.mainQueueArguments c.topology) copy = w.put .deadLetter copy := by
  rw [expel, Topology.deadLetterRoute?_main]
  show w.store c c.deadLetterExchange c.deadLetterRoutingKey copy = _
  rw [store, Config.queuesOf_deadLetter h]
  rfl

/-- An expired retry goes into the main queue. -/
theorem expel_retry (h : c.validate = .ok ()) {arguments : Amqp.Table}
    (hdeclared : Topology.retryQueueArguments c.topology = .ok arguments) (copy : Copy) :
    w.expel c arguments copy = w.put .main copy := by
  rw [expel, Topology.deadLetterRoute?_retry hdeclared]
  exact w.store_main h copy

end World

/-! ### The copies -/

/-- A copy is in a queue or unsettled. -/
def World.Has (w : World) (copy : Copy) : Prop :=
  (∃ q, copy ∈ w.queues q) ∨ ∃ h ∈ w.held, h.copy = copy

namespace World

variable {w : World} {x : Copy}

theorem has_put {q : Topology.Queue} {copy : Copy} (h : (w.put q copy).Has x) :
    w.Has x ∨ x = copy := by
  rcases h with ⟨q', hx⟩ | hx
  · by_cases hq : q' = q
    · subst hq
      simp only [put, Function.update_self, List.mem_append, List.mem_singleton] at hx
      exact hx.imp_left fun hx => .inl ⟨q', hx⟩
    · simp only [put, Function.update_of_ne hq] at hx
      exact .inl (.inl ⟨q', hx⟩)
  · exact .inl (.inr hx)

theorem has_refill {q : Topology.Queue} {before after : List Copy} {copy : Copy}
    (hqueued : w.queues q = before ++ copy :: after)
    (h : (w.refill q (before ++ after)).Has x) : w.Has x := by
  rcases h with ⟨q', hx⟩ | hx
  · by_cases hq : q' = q
    · subst hq
      simp only [refill, Function.update_self, List.mem_append] at hx
      refine .inl ⟨q', ?_⟩
      rw [hqueued, List.mem_append, List.mem_cons]
      exact hx.imp_right .inr
    · simp only [refill, Function.update_of_ne hq] at hx
      exact .inl ⟨q', hx⟩
  · exact .inr hx

theorem has_settle {held : List Held} (hheld : held ⊆ w.held) (h : (w.settle held).Has x) :
    w.Has x := by
  rcases h with hx | ⟨h, hmem, heq⟩
  · exact .inl hx
  · exact .inr ⟨h, hheld hmem, heq⟩

theorem has_hand {i : Nat} {tag : UInt64} {copy : Copy} (h : (w.hand i tag copy).Has x) :
    w.Has x ∨ x = copy := by
  rcases h with hx | ⟨h, hmem, rfl⟩
  · exact .inl (.inl hx)
  · rcases List.mem_cons.1 hmem with rfl | hmem
    · exact .inr rfl
    · exact .inl (.inr ⟨h, hmem, rfl⟩)

theorem has_drop {i : Nat} (h : (w.drop i).Has x) : w.Has x := by
  rcases h with ⟨q, hx⟩ | ⟨h, hmem, heq⟩
  · by_cases hq : q = .main
    · subst hq
      simp only [drop, Function.update_self, List.mem_append, List.mem_map] at hx
      rcases hx with hx | ⟨h, hmem, heq⟩
      · exact .inl ⟨.main, hx⟩
      · exact .inr ⟨h, (List.mem_filter.1 hmem).1, heq⟩
    · simp only [drop, Function.update_of_ne hq] at hx
      exact .inl ⟨q, hx⟩
  · exact .inr ⟨h, (List.mem_filter.1 hmem).1, heq⟩

end World

/-! ### The workers -/

/-- When one worker goes on, its debt changes and no other. -/
theorem owing_set {s : Pipeline} {w : World} {pool : Worker.Pool} {i : Nat}
    {old new : Worker.Phase} (hold : s.pool.workers[i]? = some old)
    (hpool : pool.workers = s.pool.workers.set i new)
    (hserving : ∀ j, j ≠ i → w.serving j = s.world.serving j) (d : Debt) (p : Nat → Bool) :
    owing ⟨w, pool⟩ d p + (if p (s.world.serving i) = true ∧ debt? old = some d then 1 else 0) =
      s.owing d p + (if p (w.serving i) = true ∧ debt? new = some d then 1 else 0) := by
  have hi : i < s.pool.workers.length := (List.getElem?_eq_some_iff.1 hold).1
  have h := countP_range_update hi
    (f := fun j => p (w.serving j) && pool.workers[j]?.bind debt? == some d)
    (g := fun j => p (s.world.serving j) && s.pool.workers[j]?.bind debt? == some d)
    fun j hj => by
      simp only [hpool, List.getElem?_set_ne (Ne.symm hj), hserving j hj]
  simp only [hold, hpool, List.getElem?_set_self hi, Option.bind_some, Bool.and_eq_true,
    beq_iff_eq] at h
  simpa only [owing, hpool, List.length_set] using h

end Pipeline

end Courier
