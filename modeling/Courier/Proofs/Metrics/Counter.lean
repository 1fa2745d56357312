import Courier.Metrics

/-!
# The counters by name

Each event raises one counter by one, so a counter tells how many of its events were counted, as
long as that is fewer than `2 ^ 64`, and the order of the events does not matter.

* `Metrics.Counter`, `Metrics.value` : the counters by name, and what they show.
* `Metrics.value_record` : **an event raises its own counter and no other.**
* `Metrics.recordAll` : the counters after some events.
* `Metrics.toNat_value_recordAll` : a counter shows how many of its events there were.
* `Metrics.recordAll_perm` : the order of the events does not matter.
-/

namespace Courier

namespace Metrics

/-- The counters by name. -/
inductive Counter where
  | published
  | publishFailures
  | received
  | succeeded
  | deliveryFailures
  | retried
  | retryPublishFailures
  | ackFailures
  | deadLettered (reason : DeadLetterReason)
  deriving DecidableEq, Repr

/-- The counter of an outcome. -/
def counterOf : Outcome → Counter
  | .succeeded _ => .succeeded
  | .retrying _ => .retried
  | .retryLost _ => .retryPublishFailures
  | .settlementFailed => .ackFailures
  | .deadLettered reason => .deadLettered reason

/-- The counter of an event. -/
def Event.counter : Event → Counter
  | .published => .published
  | .publishFailure => .publishFailures
  | .received => .received
  | .deliveryFailure => .deliveryFailures
  | .outcome o => counterOf o

/-- The outcome that an event counts, if any. -/
def Event.outcome? : Event → Option Outcome
  | .published => none
  | .publishFailure => none
  | .received => none
  | .deliveryFailure => none
  | .outcome o => some o

/-- No outcome raises a counter of anything else. -/
theorem counterOf_ne (o : Outcome) : counterOf o ≠ .received ∧ counterOf o ≠ .deliveryFailures ∧
    counterOf o ≠ .published ∧ counterOf o ≠ .publishFailures := by
  cases o <;> simp [counterOf]

/-- What is shown for a reason to give messages up. -/
def countOf (counts : DeadLetterCounts) : DeadLetterReason → UInt64
  | .malformedPayload => counts.malformedPayload
  | .unsupportedType => counts.unsupportedType
  | .missingRecipient => counts.missingRecipient
  | .retriesExhausted => counts.retriesExhausted

/-- What a counter shows. -/
def value (m : Metrics) : Counter → UInt64
  | .published => m.published
  | .publishFailures => m.publishFailures
  | .received => m.received
  | .succeeded => m.succeeded
  | .deliveryFailures => m.deliveryFailures
  | .retried => m.retried
  | .retryPublishFailures => m.retryPublishFailures
  | .ackFailures => m.ackFailures
  | .deadLettered reason => countOf m.deadLettered reason

@[simp] theorem value_zero (k : Counter) : zero.value k = 0 := by
  cases k with
  | deadLettered reason => cases reason <;> rfl
  | _ => rfl

/-- Counters that show the same are the same. -/
theorem ext_value {m m' : Metrics} (h : ∀ k, m.value k = m'.value k) : m = m' := by
  obtain ⟨_, _, _, _, _, _, _, _, dead⟩ := m
  obtain ⟨_, _, _, _, _, _, _, _, dead'⟩ := m'
  have hdead : dead = dead' := by
    obtain ⟨_, _, _, _⟩ := dead
    obtain ⟨_, _, _, _⟩ := dead'
    congr 1
    · exact h (.deadLettered .malformedPayload)
    · exact h (.deadLettered .unsupportedType)
    · exact h (.deadLettered .missingRecipient)
    · exact h (.deadLettered .retriesExhausted)
  congr 1
  · exact h .published
  · exact h .publishFailures
  · exact h .received
  · exact h .succeeded
  · exact h .deliveryFailures
  · exact h .retried
  · exact h .retryPublishFailures
  · exact h .ackFailures

theorem countOf_recordDeadLetter (counts : DeadLetterCounts) (reason reason' : DeadLetterReason) :
    countOf (recordDeadLetter counts reason) reason' =
      countOf counts reason' + if reason = reason' then 1 else 0 := by
  cases reason <;> cases reason' <;> simp [recordDeadLetter, countOf]

/-- **An event raises its own counter and no other.** -/
theorem value_record (m : Metrics) (e : Event) (k : Counter) :
    (m.record e).value k = m.value k + if e.counter = k then 1 else 0 := by
  cases e with
  | outcome o =>
    cases o with
    | deadLettered reason =>
      cases k with
      | deadLettered reason' =>
        simp only [record, recordOutcome, value, Event.counter, counterOf,
          countOf_recordDeadLetter, Counter.deadLettered.injEq]
      | _ => simp [record, recordOutcome, value, Event.counter, counterOf]
    | _ => cases k <;> simp [record, recordOutcome, value, Event.counter, counterOf]
  | _ => cases k <;> simp [record, value, Event.counter]

/-! ### Many events -/

/-- How many of some events raise a counter. -/
def raises (k : Counter) (es : List Event) : Nat := es.countP fun e => decide (e.counter = k)

@[simp] theorem raises_nil (k : Counter) : raises k [] = 0 := rfl

@[simp] theorem raises_cons (k : Counter) (e : Event) (es : List Event) :
    raises k (e :: es) = raises k es + if e.counter = k then 1 else 0 := by
  simp [raises, List.countP_cons]

@[simp] theorem raises_append (k : Counter) (es es' : List Event) :
    raises k (es ++ es') = raises k es + raises k es' := List.countP_append

/-- How many of some outcomes raise a counter. -/
def hits (k : Counter) (os : List Outcome) : Nat := os.countP fun o => decide (counterOf o = k)

@[simp] theorem hits_cons (k : Counter) (o : Outcome) (os : List Outcome) :
    hits k (o :: os) = hits k os + if counterOf o = k then 1 else 0 := by
  simp [hits, List.countP_cons]

@[simp] theorem hits_append (k : Counter) (os os' : List Outcome) :
    hits k (os ++ os') = hits k os + hits k os' := List.countP_append

/-- The counter of an outcome is raised by outcomes only. -/
theorem raises_counterOf (o : Outcome) (es : List Event) :
    raises (counterOf o) es = hits (counterOf o) (es.filterMap Event.outcome?) := by
  obtain ⟨hreceived, hfailures, hpublished, hrefused⟩ := counterOf_ne o
  induction es with
  | nil => rfl
  | cons e es ih =>
    rw [raises_cons, ih]
    cases e with
    | outcome o' => exact (hits_cons _ _ _).symm
    | _ =>
      simp [List.filterMap_cons, Event.outcome?, Event.counter, Ne.symm hreceived,
        Ne.symm hfailures, Ne.symm hpublished, Ne.symm hrefused]

/-- Every outcome raises one of eight counters. -/
theorem length_eq_hits (os : List Outcome) : os.length =
    hits .succeeded os + hits .retried os + hits .retryPublishFailures os + hits .ackFailures os +
      hits (.deadLettered .malformedPayload) os + hits (.deadLettered .unsupportedType) os +
      hits (.deadLettered .missingRecipient) os + hits (.deadLettered .retriesExhausted) os := by
  induction os with
  | nil => rfl
  | cons o os ih =>
    rw [List.length_cons, ih]
    simp only [hits_cons]
    cases o with
    | deadLettered reason => cases reason <;> simp [counterOf] <;> omega
    | _ => simp [counterOf]; try omega

/-- What the eight counters of outcomes show together. -/
def shownOutcomes (m : Metrics) : Nat :=
  m.succeeded.toNat + m.retried.toNat + m.retryPublishFailures.toNat + m.ackFailures.toNat +
    m.deadLettered.malformedPayload.toNat + m.deadLettered.unsupportedType.toNat +
    m.deadLettered.missingRecipient.toNat + m.deadLettered.retriesExhausted.toNat

theorem raises_le_length (k : Counter) (es : List Event) : raises k es ≤ es.length :=
  List.countP_le_length

/-- The counters after some events. -/
def recordAll (m : Metrics) (es : List Event) : Metrics := es.foldl record m

theorem recordAll_append (m : Metrics) (es es' : List Event) :
    m.recordAll (es ++ es') = (m.recordAll es).recordAll es' := List.foldl_append

theorem value_recordAll (m : Metrics) (es : List Event) (k : Counter) :
    (m.recordAll es).value k = m.value k + UInt64.ofNat (raises k es) := by
  induction es generalizing m with
  | nil => exact (UInt64.add_zero _).symm
  | cons e es ih =>
    rw [recordAll, List.foldl_cons, ← recordAll, ih, value_record, raises_cons, UInt64.ofNat_add,
      UInt64.add_assoc, UInt64.add_comm (UInt64.ofNat (raises k es))]
    split <;> rfl

/-- A counter shows how many of its events there were, if all were fewer than `2 ^ 64`. -/
theorem toNat_value_recordAll {es : List Event} (h : es.length < UInt64.size) (k : Counter) :
    ((zero.recordAll es).value k).toNat = raises k es := by
  rw [value_recordAll, value_zero, UInt64.zero_add]
  exact UInt64.toNat_ofNat_of_lt (Nat.lt_of_le_of_lt (raises_le_length k es) h)

/-- The order of the events does not matter. -/
theorem recordAll_perm (m : Metrics) {es es' : List Event} (h : es.Perm es') :
    m.recordAll es = m.recordAll es' := by
  refine ext_value fun k => ?_
  rw [value_recordAll, value_recordAll, raises, raises, h.countP_eq]

end Metrics

end Courier
