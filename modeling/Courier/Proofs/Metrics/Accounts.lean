import Courier.Proofs.Lists
import Courier.Proofs.Metrics.Counter
import Courier.Proofs.Processing.Discipline
import Courier.Publishing.Basic

/-!
# The accounts of the service

Any number of occurrences are handled and any number of notifications are queued side by side, and
all of them count into the same counters, one increment at a time.  The counters account for every
one of them at any moment: an occurrence whose arrival was counted is either counted once more, by
its outcome, or is still being handled.

A call that is abandoned, or that dies, is one that asks nothing any more.

* `Accounts.Books` : the counters, what was counted, and the calls.
* `Accounts.Step` : the next question of any call, in any order.
* `Accounts.Unreported` : the rest of a handling between its arrival and its outcome.
* `Accounts.Tally` : what the handlings of some occurrences have counted together.
* `Accounts.Books.Balanced` : what the counters have to do with the calls.
* `Accounts.books_balance` : **the counters account for every message in every interleaving.**
-/

namespace Courier

/-- The result of a dialogue that has ended. -/
def Dialogue.result? {Q : Type} {A : Q → Type} {α : Type} : Dialogue Q A α → Option α
  | .done a => some a
  | .ask .. => none

namespace Accounts

open Metrics (Event Counter counterOf raises hits shownOutcomes)

/-- The questions of a handling with their answers, the oldest first. -/
abbrev Past := List ((a : Processing.Action) × a.Answer)

/-- What an action of a handling counts. -/
def counted? : Processing.Action → Option Event
  | .count e => some e
  | .send .. => none
  | .settle _ => none
  | .publish _ => none

/-- Whether an answer says that the provider failed to deliver, or took too long. -/
def refuses (limit : Duration) : (a : Processing.Action) × a.Answer → Bool
  | ⟨.send _ _, reply⟩ => (reply.delivered? limit).isNone
  | ⟨.count _, _⟩ => false
  | ⟨.settle _, _⟩ => false
  | ⟨.publish _, _⟩ => false

/-- What an action of a caller of the publisher counts. -/
def billed? : Publishing.Action → Option Event
  | .count e => some e
  | .submit _ => none

/-- The handling of an occurrence. -/
structure Handling where
  /-- How occurrences are handled. -/
  config : Processing.Config
  past : Past
  /-- What is yet to be done. -/
  rest : Processing.Task

namespace Handling

/-- What it has counted. -/
def counted (h : Handling) : List Event := h.past.filterMap fun x => counted? x.1

/-- The outcome, once it has been counted. -/
def outcome? (h : Handling) : Option Outcome := h.rest.result?

/-- It has begun, and its outcome has not been counted. -/
def isOpen (h : Handling) : Bool := !h.past.isEmpty && h.outcome?.isNone

/-- Whether the provider failed to deliver, or took too long. -/
def failed (h : Handling) : Bool := h.past.any (refuses h.config.deliveryTimeout)

/-- The outcome together with whether the delivery failed on the way. -/
def account? (h : Handling) : Option (Outcome × Bool) := h.outcome?.map fun o => (o, h.failed)

end Handling

/-- A call of the publisher. -/
structure Submission where
  /-- The questions that were answered, the oldest first. -/
  past : List ((a : Publishing.Action) × a.Answer)
  /-- What is yet to be done. -/
  rest : Publishing.Task (Except PublishError Unit)

namespace Submission

/-- What it has counted. -/
def counted (x : Submission) : List Event := x.past.filterMap fun y => billed? y.1

/-- The result, once the caller has it. -/
def result? (x : Submission) : Option (Except PublishError Unit) := x.rest.result?

end Submission

/-- The counters and the calls that count. -/
structure Books where
  metrics : Metrics
  /-- What was counted, the oldest first. -/
  events : List Event
  handlings : List Handling
  submissions : List Submission

namespace Books

/-- Nothing has happened. -/
def start : Books := ⟨.zero, [], [], []⟩

/-- The counters after an event, if there is one. -/
def count (s : Books) (e : Option Event) : Books :=
  { s with metrics := e.elim s.metrics s.metrics.record, events := s.events ++ e.toList }

/-- How many occurrences are being handled. -/
def underWay (s : Books) : Nat := s.handlings.countP Handling.isOpen

/-- The outcomes that were counted. -/
def outcomes (s : Books) : List Outcome := s.handlings.filterMap Handling.outcome?

/-- The outcomes with whether the delivery failed. -/
def accounts (s : Books) : List (Outcome × Bool) := s.handlings.filterMap Handling.account?

/-- The results that callers of the publisher got. -/
def results (s : Books) : List (Except PublishError Unit) :=
  s.submissions.filterMap Submission.result?

end Books

/-- What can happen: a call begins, or one of them has its next question answered. -/
inductive Step (s : Books) : Books → Prop where
  /-- The handling of an occurrence is called. -/
  | arrive (c : Processing.Config) (o : Amqp.Occurrence) :
    Step s { s with handlings := s.handlings ++ [⟨c, [], Processing.process c o⟩] }
  /-- The publisher is called. -/
  | call (c : Publishing.Config) (n : Notification) :
    Step s { s with submissions := s.submissions ++ [⟨[], Publishing.publish c n⟩] }
  /-- A handling has its next question answered, in whatever way. -/
  | handle (before after : List Handling) (c : Processing.Config)
      (past : List ((a : Processing.Action) × a.Answer)) (a : Processing.Action)
      (next : a.Answer → Processing.Task) (answer : a.Answer)
      (asks : s.handlings = before ++ ⟨c, past, .ask a next⟩ :: after) :
    Step s { s.count (counted? a) with
      handlings := before ++ ⟨c, past ++ [⟨a, answer⟩], next answer⟩ :: after }
  /-- A caller of the publisher has its next question answered, in whatever way. -/
  | submit (before after : List Submission) (past : List ((a : Publishing.Action) × a.Answer))
      (a : Publishing.Action) (next : a.Answer → Publishing.Task (Except PublishError Unit))
      (answer : a.Answer) (asks : s.submissions = before ++ ⟨past, .ask a next⟩ :: after) :
    Step s { s.count (billed? a) with
      submissions := before ++ ⟨past ++ [⟨a, answer⟩], next answer⟩ :: after }

/-- One state of the books and what can become of it. -/
inductive Steps (s : Books) : Books → Prop where
  | refl : Steps s s
  /-- One step more. -/
  | step {s' s'' : Books} (before : Steps s s') (step : Step s' s'') : Steps s s''

/-- What can become of empty books. -/
abbrev Reachable : Books → Prop := Steps Books.start

/-! ### One handling -/

/-- Whether an outcome tells that the delivery failed. -/
def tellsFailure : Outcome → Bool
  | .succeeded _ => false
  | .retrying _ => true
  | .retryLost _ => true
  | .deadLettered reason => decide (reason = .retriesExhausted)
  | .settlementFailed => false

/-- What an outcome has to do with a failed delivery: it tells of it, unless the settlement
failed. -/
def Explains (failed : Bool) (o : Outcome) : Prop :=
  o = .settlementFailed ∨ tellsFailure o = failed

/-- The rest of a handling between its arrival and its outcome: whether the delivery failed, and
whether that has yet to be counted. -/
inductive Unreported (limit : Duration) : (failed due : Bool) → Processing.Task → Prop where
  /-- The provider is called, and then it is known whether the delivery failed. -/
  | send (token : String) (n : Notification) (next : Processing.Reply → Processing.Task) :
    (∀ reply, Unreported limit (reply.delivered? limit).isNone (reply.delivered? limit).isNone
      (next reply)) → Unreported limit false false (.ask (.send token n) next)
  /-- A failed delivery is counted. -/
  | failure (next : Unit → Processing.Task) :
    Unreported limit true false (next ()) →
      Unreported limit true true (.ask (.count .deliveryFailure) next)
  | settle {failed : Bool} (k : Amqp.Settlement)
      (next : Except BrokerError Unit → Processing.Task) :
    (∀ result, Unreported limit failed false (next result)) →
      Unreported limit failed false (.ask (.settle k) next)
  | publish {failed : Bool} (m : Amqp.Outgoing)
      (next : Except BrokerError Unit → Processing.Task) :
    (∀ result, Unreported limit failed false (next result)) →
      Unreported limit failed false (.ask (.publish m) next)
  /-- The outcome is counted. -/
  | report {failed : Bool} (outcome : Outcome) :
    Explains failed outcome → Unreported limit failed false (Processing.report outcome)

variable {c : Processing.Config} {o : Amqp.Occurrence} {limit : Duration} {failed due : Bool}

theorem explains_settled (result : Except BrokerError Unit) {outcome : Outcome}
    (h : tellsFailure outcome = failed) : Explains failed (Processing.settled result outcome) := by
  cases result with
  | ok _ => exact .inr h
  | error e => exact .inl rfl

theorem unreported_deadLetter {reason : DeadLetterReason}
    (h : tellsFailure (.deadLettered reason) = failed) :
    Unreported limit failed false ((Processing.deadLetter reason).bind Processing.report) := by
  rw [Processing.deadLetter, Processing.settleWith_bind_report]
  exact .settle _ _ fun result => .report _ (explains_settled result h)

theorem unreported_afterFailure :
    Unreported limit true false ((Processing.afterFailure c o).bind Processing.report) := by
  by_cases hlt : o.retryCount < c.policy.maxRetries
  · rw [Processing.afterFailure_of_lt hlt, Processing.retry_bind_report]
    refine .settle _ _ fun result => ?_
    cases result with
    | error e => exact .report _ (.inl rfl)
    | ok _ =>
      refine .publish _ _ fun result => .report _ (.inr ?_)
      cases result <;> rfl
  · rw [Processing.afterFailure_of_le (UInt32.not_lt.1 hlt)]
    exact unreported_deadLetter rfl

theorem unreported_proceed (delivered : Option String) :
    Unreported limit delivered.isNone delivered.isNone
      ((Processing.proceed c o delivered).bind Processing.report) := by
  cases delivered with
  | some id =>
    rw [Processing.proceed.eq_def, Processing.settleWith_bind_report]
    exact .settle _ _ fun result => .report _ (explains_settled result rfl)
  | none => exact .failure _ unreported_afterFailure

/-- Once its arrival was counted, every occurrence is handled in this way. -/
theorem unreported_handle (c : Processing.Config) (o : Amqp.Occurrence) :
    Unreported c.deliveryTimeout false false ((Processing.handle c o).bind Processing.report) := by
  rcases Processing.unusable_or_addressed c o.body with ⟨reason, h⟩ | ⟨token, n, h⟩
  · rw [Processing.handle_of_unusable h]
    refine unreported_deadLetter ?_
    cases h <;> rfl
  · rw [Processing.handle_of_addressed h, Processing.attempt_eq]
    exact .send token n _ fun reply => unreported_proceed _

/-- What a handling has counted before its outcome. -/
def prelude (failed due : Bool) : List Event :=
  .received :: if failed && !due then [.deliveryFailure] else []

/-- What a handling with an outcome has counted. -/
def story (account : Outcome × Bool) : List Event :=
  prelude account.2 false ++ [.outcome account.1]

/-- How far a handling can be. -/
inductive Stage (c : Processing.Config) : Past → Processing.Task → Prop where
  /-- It has yet to count its arrival. -/
  | fresh (o : Amqp.Occurrence) :
    Stage c [] (.ask (.count .received) fun _ => (Processing.handle c o).bind Processing.report)
  /-- It has yet to count its outcome. -/
  | unreported {past : Past} {failed due : Bool} {rest : Processing.Task} :
    past ≠ [] → past.filterMap (fun x => counted? x.1) = prelude failed due →
      past.any (refuses c.deliveryTimeout) = failed →
      Unreported c.deliveryTimeout failed due rest → Stage c past rest
  /-- It has counted everything. -/
  | reported {past : Past} {failed : Bool} (outcome : Outcome) :
    past ≠ [] → past.filterMap (fun x => counted? x.1) = story (outcome, failed) →
      past.any (refuses c.deliveryTimeout) = failed →
      Explains failed outcome → Stage c past (.done outcome)

/-- A handling goes on as it can, whatever the answer to its question is. -/
theorem Stage.ask {past : Past} {a : Processing.Action} {next : a.Answer → Processing.Task}
    (h : Stage c past (.ask a next)) (answer : a.Answer) :
    Stage c (past ++ [⟨a, answer⟩]) (next answer) := by
  have hne : past ++ [⟨a, answer⟩] ≠ [] := by simp
  cases h with
  | fresh o => exact .unreported hne rfl rfl (unreported_handle c o)
  | unreported _ hcounted hfailed hrest =>
    cases hrest with
    | send token n _ hnext =>
      refine .unreported hne ?_ ?_ (hnext answer)
      · rw [List.filterMap_append, hcounted]
        cases (Processing.Reply.delivered? answer c.deliveryTimeout).isNone <;> rfl
      · rw [List.any_append, hfailed]
        simp [refuses]
    | failure _ hnext =>
      refine .unreported hne ?_ ?_ hnext
      · rw [List.filterMap_append, hcounted]
        rfl
      · rw [List.any_append, hfailed]
        rfl
    | settle k _ hnext =>
      refine .unreported hne ?_ ?_ (hnext answer)
      · rw [List.filterMap_append, hcounted]
        exact List.append_nil _
      · rw [List.any_append, hfailed]
        exact Bool.or_false _
    | publish m _ hnext =>
      refine .unreported hne ?_ ?_ (hnext answer)
      · rw [List.filterMap_append, hcounted]
        exact List.append_nil _
      · rw [List.any_append, hfailed]
        exact Bool.or_false _
    | report outcome hexplains =>
      refine .reported outcome hne ?_ ?_ hexplains
      · rw [List.filterMap_append, hcounted]
        rfl
      · rw [List.any_append, hfailed]
        exact Bool.or_false _

/-- What some handlings have counted together. -/
structure Tally (hs : List Handling) (es : List Event) : Prop where
  /-- The arrivals are those of the occurrences whose handling has begun. -/
  begun : raises .received es = hs.countP fun h => !h.past.isEmpty
  /-- Each of them has an outcome or is being handled. -/
  arrivals : raises .received es =
    hs.countP Handling.isOpen + (hs.filterMap Handling.outcome?).length
  outcomes : es.filterMap Event.outcome? = hs.filterMap Handling.outcome?
  /-- Where an outcome tells of a failed delivery, one was counted. -/
  explained : (hs.filterMap Handling.outcome?).countP tellsFailure ≤ raises .deliveryFailures es
  /-- Where a failed delivery was counted, the outcome tells of it, or the settlement failed. -/
  followed : raises .deliveryFailures es ≤ (hs.filterMap Handling.outcome?).countP tellsFailure +
    hits .ackFailures (hs.filterMap Handling.outcome?) + hs.countP Handling.isOpen
  /-- A failed delivery that was counted is one. -/
  failures_le : raises .deliveryFailures es ≤ hs.countP Handling.failed
  /-- A failed delivery was counted, unless the occurrence is being handled. -/
  le_failures : hs.countP Handling.failed ≤
    raises .deliveryFailures es + hs.countP Handling.isOpen
  published : raises .published es = 0
  publishFailures : raises .publishFailures es = 0

namespace Tally

theorem nil : Tally [] [] where
  begun := rfl
  arrivals := rfl
  outcomes := rfl
  explained := Nat.le_refl _
  followed := Nat.le_refl _
  failures_le := Nat.le_refl _
  le_failures := Nat.le_refl _
  published := rfl
  publishFailures := rfl

variable {hs hs' : List Handling} {es es' : List Event}

/-- Handlings count side by side. -/
theorem append (h : Tally hs es) (h' : Tally hs' es') : Tally (hs ++ hs') (es ++ es') := by
  obtain ⟨h1, h2, h3, h4, h5, h6, h7, h8, h9⟩ := h
  obtain ⟨h1', h2', h3', h4', h5', h6', h7', h8', h9'⟩ := h'
  constructor
  case outcomes => rw [List.filterMap_append, List.filterMap_append, h3, h3']
  all_goals
    simp only [Metrics.raises_append, Metrics.hits_append, List.countP_append,
      List.filterMap_append, List.length_append]
    omega

end Tally

theorem Unreported.result? {rest : Processing.Task} (h : Unreported limit failed due rest) :
    rest.result? = none := by
  cases h <;> rfl

/-- A handling that is not under way has counted the story of its account, if it has one. -/
theorem Stage.counted_of_closed {past : Past} {rest : Processing.Task} (h : Stage c past rest)
    (hclosed : Handling.isOpen ⟨c, past, rest⟩ = false) : Handling.counted ⟨c, past, rest⟩ =
      (Handling.account? ⟨c, past, rest⟩).toList.flatMap story := by
  cases h with
  | fresh o => rfl
  | unreported hbegun _ _ hrest =>
    simp [Handling.isOpen, Handling.outcome?, hbegun, hrest.result?] at hclosed
  | reported outcome _ hcounted hfailed _ =>
    have haccount : Handling.account? ⟨c, past, .done outcome⟩ = some (outcome, _) :=
      congrArg (fun failed => some (outcome, failed)) hfailed
    rw [haccount]
    exact hcounted.trans (List.append_nil _).symm

/-! ### What one handling adds -/

section Single

variable {h : Handling} {outcome : Outcome}

theorem countP_single {α : Type} (p : α → Bool) (a : α) : [a].countP p = (p a).toNat := by
  cases hp : p a <;> simp [hp]

@[simp] theorem raises_received_prelude : raises .received (prelude failed due) = 1 := by
  cases failed <;> cases due <;> rfl

@[simp] theorem raises_deliveryFailures_prelude :
    raises .deliveryFailures (prelude failed due) = (failed && !due).toNat := by
  cases failed <;> cases due <;> rfl

@[simp] theorem raises_published_prelude : raises .published (prelude failed due) = 0 := by
  cases failed <;> cases due <;> rfl

@[simp] theorem raises_publishFailures_prelude :
    raises .publishFailures (prelude failed due) = 0 := by
  cases failed <;> cases due <;> rfl

@[simp] theorem outcomes_prelude : (prelude failed due).filterMap Event.outcome? = [] := by
  cases failed <;> cases due <;> rfl

/-- The outcome raises no counter but its own. -/
theorem raises_story {k : Counter} (hk : counterOf outcome ≠ k) :
    raises k (story (outcome, failed)) = raises k (prelude failed false) := by
  have hrest : raises k [.outcome outcome] = 0 := by simp [Event.counter, hk]
  rw [story, Metrics.raises_append, hrest, Nat.add_zero]

theorem Explains.le_failed (hexplains : Explains failed outcome) :
    (tellsFailure outcome).toNat ≤ failed.toNat := by
  rcases hexplains with rfl | rfl
  · exact Nat.zero_le _
  · exact Nat.le_refl _

theorem Explains.failed_le (hexplains : Explains failed outcome) :
    failed.toNat ≤ (tellsFailure outcome).toNat + hits .ackFailures [outcome] := by
  rcases hexplains with rfl | rfl
  · exact failed.toNat_le
  · exact Nat.le_add_right _ _

/-- A handling that has not begun has counted nothing. -/
theorem tally_fresh (hfresh : h.past = []) (houtcome : h.outcome? = none) : Tally [h] [] := by
  have hclosed : h.isOpen = false := by simp [Handling.isOpen, hfresh]
  have hsmooth : h.failed = false := by simp [Handling.failed, hfresh]
  constructor <;> simp [hfresh, houtcome, hclosed, hsmooth]

/-- A handling that is under way has counted its arrival, and that the delivery failed as soon as
that is due. -/
theorem tally_open (hbegun : h.past ≠ []) (houtcome : h.outcome? = none) :
    Tally [h] (prelude h.failed due) := by
  have hopen : h.isOpen = true := by simp [Handling.isOpen, hbegun, houtcome]
  have hnone : [h].filterMap Handling.outcome? = [] := List.filterMap_cons_none houtcome
  constructor
  case begun => simp [hbegun]
  case arrivals => simp [hopen, hnone]
  case outcomes => rw [outcomes_prelude, hnone]
  case explained => rw [hnone]; exact Nat.zero_le _
  case followed =>
    rw [raises_deliveryFailures_prelude, countP_single Handling.isOpen, hopen]
    exact Nat.le_trans (Bool.toNat_le _) (Nat.le_add_left _ _)
  case failures_le =>
    rw [raises_deliveryFailures_prelude, countP_single]
    cases h.failed <;> cases due <;> decide
  case le_failures =>
    rw [countP_single, countP_single, hopen]
    exact Nat.le_trans (Bool.toNat_le _) (Nat.le_add_left _ _)
  case published => exact raises_published_prelude
  case publishFailures => exact raises_publishFailures_prelude

/-- A handling that has an outcome has counted everything. -/
theorem tally_closed (hbegun : h.past ≠ []) (houtcome : h.outcome? = some outcome)
    (hexplains : Explains h.failed outcome) : Tally [h] (story (outcome, h.failed)) := by
  have hclosed : h.isOpen = false := by simp [Handling.isOpen, houtcome]
  have hsome : [h].filterMap Handling.outcome? = [outcome] := List.filterMap_cons_some houtcome
  obtain ⟨hreceived, hfailures, hpublished, hrefused⟩ := Metrics.counterOf_ne outcome
  have hcounted : raises .deliveryFailures (story (outcome, h.failed)) = h.failed.toNat := by
    rw [raises_story hfailures, raises_deliveryFailures_prelude, Bool.not_false, Bool.and_true]
  constructor
  case begun => simp [raises_story hreceived, hbegun]
  case arrivals => simp [raises_story hreceived, hclosed, hsome]
  case outcomes => rw [story, List.filterMap_append, outcomes_prelude, hsome]; rfl
  case explained =>
    rw [hsome, countP_single, hcounted]
    exact hexplains.le_failed
  case followed =>
    rw [hsome, countP_single tellsFailure, hcounted]
    exact Nat.le_trans hexplains.failed_le (Nat.le_add_right _ _)
  case failures_le => exact Nat.le_of_eq (hcounted.trans (countP_single _ _).symm)
  case le_failures =>
    rw [hcounted, countP_single Handling.failed]
    exact Nat.le_add_right _ _
  case published => rw [raises_story hpublished, raises_published_prelude]
  case publishFailures => rw [raises_story hrefused, raises_publishFailures_prelude]

end Single

/-- What one handling has counted. -/
theorem Stage.tally {past : Past} {rest : Processing.Task} (h : Stage c past rest) :
    Tally [⟨c, past, rest⟩] (Handling.counted ⟨c, past, rest⟩) := by
  cases h with
  | fresh o => exact tally_fresh rfl rfl
  | unreported hbegun hcounted hfailed hrest =>
    rw [Handling.counted, hcounted, ← hfailed]
    exact tally_open hbegun hrest.result?
  | reported outcome hbegun hcounted hfailed hexplains =>
    subst hfailed
    rw [Handling.counted, hcounted]
    exact tally_closed hbegun rfl hexplains

/-! ### One call of the publisher -/

/-- What a result is counted as. -/
def eventOf : Except PublishError Unit → Event
  | .ok _ => .published
  | .error _ => .publishFailure

theorem eventOf_result (r : Publishing.Receipt) : eventOf r.result = r.event := by
  cases r <;> rfl

/-- The questions of a caller with their answers, the oldest first. -/
abbrev Errand := List ((a : Publishing.Action) × a.Answer)

/-- How far a call of the publisher can be. -/
inductive Bill : Errand → Publishing.Task (Except PublishError Unit) → Prop where
  /-- It has yet to hand its message over. -/
  | fresh (m : Amqp.Outgoing) : Bill [] (.ask (.submit m) Publishing.conclude)
  /-- It has yet to count what became of the message. -/
  | told {past : Errand} (r : Publishing.Receipt) :
    past.filterMap (fun y => billed? y.1) = [] →
      Bill past (.ask (.count r.event) fun _ => .done r.result)
  | finished {past : Errand} (result : Except PublishError Unit) :
    past.filterMap (fun y => billed? y.1) = [eventOf result] → Bill past (.done result)

/-- A call of the publisher goes on as it can, whatever the answer to its question is. -/
theorem Bill.ask {past : Errand} {a : Publishing.Action}
    {next : a.Answer → Publishing.Task (Except PublishError Unit)} (h : Bill past (.ask a next))
    (answer : a.Answer) : Bill (past ++ [⟨a, answer⟩]) (next answer) := by
  cases h with
  | fresh m => exact .told answer rfl
  | told r hbilled =>
    refine .finished r.result ?_
    rw [List.filterMap_append, hbilled, eventOf_result]
    rfl

/-- A call of the publisher has counted its result, if it has one. -/
theorem Bill.counted {past : Errand} {rest : Publishing.Task (Except PublishError Unit)}
    (h : Bill past rest) :
    Submission.counted ⟨past, rest⟩ = (Submission.result? ⟨past, rest⟩).toList.map eventOf := by
  cases h with
  | fresh m => rfl
  | told r hbilled => exact hbilled
  | finished result hbilled => exact hbilled

/-! ### All calls together -/

/-- The counters and the calls agree. -/
structure Books.Sound (s : Books) : Prop where
  metrics : s.metrics = Metrics.zero.recordAll s.events
  /-- What was counted is what the calls have counted. -/
  events : s.events.Perm
    (s.handlings.flatMap Handling.counted ++ s.submissions.flatMap Submission.counted)
  handlings : ∀ h ∈ s.handlings, Stage h.config h.past h.rest
  submissions : ∀ x ∈ s.submissions, Bill x.past x.rest

namespace Books.Sound

variable {s s' : Books}

theorem start : Books.start.Sound where
  metrics := rfl
  events := .nil
  handlings := nofun
  submissions := nofun

theorem arrive (hs : s.Sound) (c : Processing.Config) (o : Amqp.Occurrence) :
    Books.Sound { s with handlings := s.handlings ++ [⟨c, [], Processing.process c o⟩] } where
  metrics := hs.metrics
  events := by
    rw [List.flatMap_append]
    simpa [Handling.counted] using hs.events
  handlings h hmem := by
    rcases List.mem_append.1 hmem with hmem | hmem
    · exact hs.handlings h hmem
    · cases List.mem_singleton.1 hmem
      exact .fresh o
  submissions := hs.submissions

theorem call (hs : s.Sound) (c : Publishing.Config) (n : Notification) :
    Books.Sound { s with submissions := s.submissions ++ [⟨[], Publishing.publish c n⟩] } where
  metrics := hs.metrics
  events := by
    rw [List.flatMap_append]
    simpa [Submission.counted] using hs.events
  handlings := hs.handlings
  submissions x hmem := by
    rcases List.mem_append.1 hmem with hmem | hmem
    · exact hs.submissions x hmem
    · cases List.mem_singleton.1 hmem
      exact .fresh _

/-- Counting an event keeps the counters in agreement with what was counted. -/
theorem metrics_count (hs : s.Sound) (e : Option Event) :
    (s.count e).metrics = Metrics.zero.recordAll (s.count e).events := by
  rw [Books.count, hs.metrics, Metrics.recordAll_append]
  cases e <;> rfl

theorem handle {before after : List Handling} {c : Processing.Config} {past : Past}
    {a : Processing.Action} {next : a.Answer → Processing.Task} (hs : s.Sound)
    (hasks : s.handlings = before ++ ⟨c, past, .ask a next⟩ :: after) (answer : a.Answer) :
    Books.Sound { s.count (counted? a) with
      handlings := before ++ ⟨c, past ++ [⟨a, answer⟩], next answer⟩ :: after } := by
  have hstage : Stage c past (.ask a next) :=
    hs.handlings ⟨c, past, .ask a next⟩ (hasks ▸ List.mem_append_right _ List.mem_cons_self)
  refine ⟨hs.metrics_count _, ?_, ?_, hs.submissions⟩
  · refine perm_flatMap_update ?_ (hasks ▸ hs.events)
    rw [Handling.counted, List.filterMap_append]
    cases hcounted : counted? a <;> simp [Handling.counted, hcounted]
  · exact forall_mem_update (hasks ▸ hs.handlings) (hstage.ask answer)

theorem submit {before after : List Submission} {past : Errand} {a : Publishing.Action}
    {next : a.Answer → Publishing.Task (Except PublishError Unit)} (hs : s.Sound)
    (hasks : s.submissions = before ++ ⟨past, .ask a next⟩ :: after) (answer : a.Answer) :
    Books.Sound { s.count (billed? a) with
      submissions := before ++ ⟨past ++ [⟨a, answer⟩], next answer⟩ :: after } := by
  have hbill : Bill past (.ask a next) :=
    hs.submissions ⟨past, .ask a next⟩ (hasks ▸ List.mem_append_right _ List.mem_cons_self)
  refine ⟨hs.metrics_count _, ?_, hs.handlings, ?_⟩
  · refine List.Perm.trans ?_ List.perm_append_comm
    refine perm_flatMap_update ?_ (hasks ▸ hs.events.trans List.perm_append_comm)
    rw [Submission.counted, List.filterMap_append]
    cases hbilled : billed? a <;> simp [Submission.counted, hbilled]
  · exact forall_mem_update (hasks ▸ hs.submissions) (hbill.ask answer)

/-- Every step keeps the counters and the calls in agreement. -/
theorem step (hs : s.Sound) (h : Step s s') : s'.Sound := by
  cases h with
  | arrive c o => exact hs.arrive c o
  | call c n => exact hs.call c n
  | handle before after c past a next answer asks => exact hs.handle asks answer
  | submit before after past a next answer asks => exact hs.submit asks answer

/-- So does every run. -/
theorem steps (hs : s.Sound) (h : Steps s s') : s'.Sound := by
  induction h with
  | refl => exact hs
  | step _ hstep ih => exact ih.step hstep

/-- What the handlings have counted. -/
theorem tally (hs : s.Sound) : Tally s.handlings (s.handlings.flatMap Handling.counted) := by
  have hall := hs.handlings
  generalize s.handlings = hs at hall
  induction hs with
  | nil => exact .nil
  | cons h hs ih =>
    rw [List.forall_mem_cons] at hall
    rw [List.flatMap_cons]
    exact hall.1.tally.append (ih hall.2)

/-- What the callers of the publisher have counted. -/
theorem billed (hs : s.Sound) :
    s.submissions.flatMap Submission.counted = s.results.map eventOf := by
  have hall := hs.submissions
  unfold Books.results
  generalize s.submissions = xs at hall
  induction xs with
  | nil => rfl
  | cons x xs ih =>
    rw [List.forall_mem_cons] at hall
    have hcounted : x.counted = x.result?.toList.map eventOf := hall.1.counted
    rw [List.flatMap_cons, ih hall.2, hcounted]
    cases hx : x.result? <;> simp [hx]

/-- While nothing is being handled, the handlings have counted the stories of their accounts. -/
theorem told (hs : s.Sound) (hrest : s.underWay = 0) :
    s.handlings.flatMap Handling.counted = s.accounts.flatMap story := by
  have hall := hs.handlings
  unfold Books.underWay at hrest
  unfold Books.accounts
  generalize s.handlings = hs at hall hrest
  induction hs with
  | nil => rfl
  | cons h hs ih =>
    rw [List.forall_mem_cons] at hall
    rw [List.countP_cons, Nat.add_eq_zero_iff] at hrest
    have hclosed : h.isOpen = false := by simpa using hrest.2
    rw [List.flatMap_cons, ih hall.2 hrest.1, hall.1.counted_of_closed hclosed]
    cases ha : h.account? <;> simp [ha]

/-- While nothing is being handled, what was counted are the stories of the accounts and the
results that callers of the publisher got. -/
theorem events_of_rest (hs : s.Sound) (hrest : s.underWay = 0) :
    s.events.Perm (s.accounts.flatMap story ++ s.results.map eventOf) := by
  rw [← hs.told hrest, ← hs.billed]
  exact hs.events

/-- A counter shows how many of its events the handlings and the callers of the publisher have
counted. -/
theorem toNat_value (hs : s.Sound) (hfew : s.events.length < UInt64.size) (k : Counter) :
    (s.metrics.value k).toNat = raises k (s.handlings.flatMap Handling.counted) +
      raises k (s.results.map eventOf) := by
  rw [hs.metrics, Metrics.toNat_value_recordAll hfew, ← hs.billed, ← Metrics.raises_append]
  exact hs.events.countP_eq _

end Books.Sound

/-- What was counted before remains counted. -/
theorem Steps.events_prefix {s s' : Books} (h : Steps s s') : s.events <+: s'.events := by
  induction h with
  | refl => exact List.prefix_refl _
  | step _ hstep ih =>
    refine ih.trans ?_
    cases hstep with
    | arrive c o => exact List.prefix_refl _
    | call c n => exact List.prefix_refl _
    | handle => exact List.prefix_append _ _
    | submit => exact List.prefix_append _ _

/-! ### The balance -/

/-- What the counters of outcomes show that tell of a failed delivery. -/
def shownFailures (m : Metrics) : Nat :=
  m.retried.toNat + m.retryPublishFailures.toNat + m.deadLettered.retriesExhausted.toNat

/-- An outcome that tells of a failed delivery raises one of three counters. -/
theorem countP_tellsFailure (os : List Outcome) : os.countP tellsFailure =
    hits .retried os + hits .retryPublishFailures os +
      hits (.deadLettered .retriesExhausted) os := by
  induction os with
  | nil => rfl
  | cons o os ih =>
    rw [List.countP_cons, ih]
    simp only [Metrics.hits_cons]
    cases o with
    | retryLost => simp [counterOf, tellsFailure, Nat.add_assoc, Nat.add_left_comm, Nat.add_comm]
    | deadLettered reason => cases reason <;> simp [counterOf, tellsFailure, Nat.add_assoc]
    | _ => simp [counterOf, tellsFailure, Nat.add_right_comm]

/-- The counters account for every occurrence and for every call of the publisher. -/
structure Books.Balanced (s : Books) : Prop where
  /-- An occurrence whose arrival was counted is being handled, or its outcome was counted. -/
  arrivals : s.metrics.received.toNat = s.underWay + shownOutcomes s.metrics
  begun : s.metrics.received.toNat = s.handlings.countP fun h => !h.past.isEmpty
  /-- Every outcome was counted once, by its own counter. -/
  outcomes : ∀ o, (s.metrics.value (counterOf o)).toNat = hits (counterOf o) s.outcomes
  /-- Whoever tells of a failed delivery has counted it. -/
  explained : shownFailures s.metrics ≤ s.metrics.deliveryFailures.toNat
  /-- Whoever has counted a failed delivery tells of it, unless the settlement failed. -/
  followed : s.metrics.deliveryFailures.toNat ≤
    shownFailures s.metrics + s.metrics.ackFailures.toNat + s.underWay
  /-- The failed deliveries that were counted are those that failed. -/
  failed : s.underWay = 0 → s.metrics.deliveryFailures.toNat = s.handlings.countP Handling.failed
  /-- What is published is what callers of the publisher were told so. -/
  published : s.metrics.published.toNat = s.results.countP (·.isOk)
  /-- A call of the publisher that has its result is counted, and no other. -/
  calls : s.metrics.published.toNat + s.metrics.publishFailures.toNat +
    s.submissions.countP (fun x => x.result?.isNone) = s.submissions.length

/-! ### What the counters show -/

variable {s : Books}

theorem raises_published (rs : List (Except PublishError Unit)) :
    raises .published (rs.map eventOf) = rs.countP (·.isOk) := by
  rw [raises, List.countP_map]
  exact List.countP_congr fun r _ => by
    cases r <;> simp [eventOf, Event.counter, Except.isOk, Except.toBool]

/-- Every result of a caller of the publisher raises one of two counters. -/
theorem raises_results (rs : List (Except PublishError Unit)) :
    raises .published (rs.map eventOf) + raises .publishFailures (rs.map eventOf) = rs.length := by
  induction rs with
  | nil => rfl
  | cons r rs ih =>
    rw [List.map_cons, Metrics.raises_cons, Metrics.raises_cons, List.length_cons, ← ih]
    cases r <;> simp [eventOf, Event.counter] <;> omega

theorem raises_results_of_ne {k : Counter} (hpublished : k ≠ .published)
    (hrefused : k ≠ .publishFailures) (rs : List (Except PublishError Unit)) :
    raises k (rs.map eventOf) = 0 := by
  rw [raises, List.countP_eq_zero]
  intro e he
  obtain ⟨r, -, rfl⟩ := List.mem_map.1 he
  cases r with
  | ok _ => exact fun heq => hpublished (of_decide_eq_true heq).symm
  | error _ => exact fun heq => hrefused (of_decide_eq_true heq).symm

namespace Books.Sound

/-- The counters of the handlings show what these have counted. -/
theorem toNat_handled (hs : s.Sound) (hfew : s.events.length < UInt64.size) {k : Counter}
    (hpublished : k ≠ .published) (hrefused : k ≠ .publishFailures) :
    (s.metrics.value k).toNat = raises k (s.handlings.flatMap Handling.counted) := by
  rw [hs.toNat_value hfew, raises_results_of_ne hpublished hrefused, Nat.add_zero]

/-- The counter of an outcome shows how many handlings have such an outcome. -/
theorem toNat_outcome (hs : s.Sound) (hfew : s.events.length < UInt64.size) (o : Outcome) :
    (s.metrics.value (counterOf o)).toNat = hits (counterOf o) s.outcomes := by
  obtain ⟨-, -, hpublished, hrefused⟩ := Metrics.counterOf_ne o
  rw [hs.toNat_handled hfew hpublished hrefused, Metrics.raises_counterOf, hs.tally.outcomes]
  rfl

/-- The counters of the outcomes show together how many handlings have one. -/
theorem shownOutcomes_eq (hs : s.Sound) (hfew : s.events.length < UInt64.size) :
    shownOutcomes s.metrics = s.outcomes.length := by
  have h := hs.toNat_outcome hfew
  have hsucceeded : s.metrics.succeeded.toNat = _ := h (.succeeded "")
  have hretried : s.metrics.retried.toNat = _ := h (.retrying 0)
  have hlost : s.metrics.retryPublishFailures.toNat = _ := h (.retryLost 0)
  have hack : s.metrics.ackFailures.toNat = _ := h .settlementFailed
  have hmalformed : s.metrics.deadLettered.malformedPayload.toNat = _ :=
    h (.deadLettered .malformedPayload)
  have hunsupported : s.metrics.deadLettered.unsupportedType.toNat = _ :=
    h (.deadLettered .unsupportedType)
  have hmissing : s.metrics.deadLettered.missingRecipient.toNat = _ :=
    h (.deadLettered .missingRecipient)
  have hexhausted : s.metrics.deadLettered.retriesExhausted.toNat = _ :=
    h (.deadLettered .retriesExhausted)
  rw [shownOutcomes, hsucceeded, hretried, hlost, hack, hmalformed, hunsupported, hmissing,
    hexhausted, Metrics.length_eq_hits]
  rfl

/-- The counters of the outcomes that tell of a failed delivery show together how many do. -/
theorem shownFailures_eq (hs : s.Sound) (hfew : s.events.length < UInt64.size) :
    shownFailures s.metrics = s.outcomes.countP tellsFailure := by
  have h := hs.toNat_outcome hfew
  have hretried : s.metrics.retried.toNat = _ := h (.retrying 0)
  have hlost : s.metrics.retryPublishFailures.toNat = _ := h (.retryLost 0)
  have hexhausted : s.metrics.deadLettered.retriesExhausted.toNat = _ :=
    h (.deadLettered .retriesExhausted)
  rw [shownFailures, hretried, hlost, hexhausted, countP_tellsFailure]
  rfl

/-- The counters account for every occurrence and for every call of the publisher. -/
theorem balanced (hs : s.Sound) (hfew : s.events.length < UInt64.size) : s.Balanced := by
  have hreceived : s.metrics.received.toNat = _ :=
    hs.toNat_handled hfew (k := .received) nofun nofun
  have hfailures : s.metrics.deliveryFailures.toNat = _ :=
    hs.toNat_handled hfew (k := .deliveryFailures) nofun nofun
  have hack : s.metrics.ackFailures.toNat = hits .ackFailures s.outcomes :=
    hs.toNat_outcome hfew .settlementFailed
  have htally := hs.tally
  have hpublished : s.metrics.published.toNat = s.results.countP (·.isOk) := by
    rw [← raises_published]
    exact (hs.toNat_value hfew .published).trans (by rw [htally.published, Nat.zero_add])
  have hrefused : s.metrics.publishFailures.toNat =
      raises .publishFailures (s.results.map eventOf) :=
    (hs.toNat_value hfew .publishFailures).trans (by rw [htally.publishFailures, Nat.zero_add])
  constructor
  case arrivals => rw [hreceived, hs.shownOutcomes_eq hfew]; exact htally.arrivals
  case begun => rw [hreceived]; exact htally.begun
  case outcomes => exact hs.toNat_outcome hfew
  case explained => rw [hfailures, hs.shownFailures_eq hfew]; exact htally.explained
  case followed =>
    rw [hfailures, hs.shownFailures_eq hfew, hack]
    exact htally.followed
  case failed =>
    intro hrest
    rw [hfailures]
    have hle := htally.le_failures
    rw [← Books.underWay, hrest] at hle
    exact Nat.le_antisymm htally.failures_le hle
  case published => exact hpublished
  case calls =>
    rw [hpublished, hrefused, ← raises_published, raises_results, Books.results,
      List.length_filterMap_eq_countP,
      List.length_eq_countP_add_countP fun x : Submission => x.result?.isSome]
    congr 1
    exact List.countP_congr fun x _ => by cases x.result? <;> simp

end Books.Sound

/-- In a run from empty books the counters and the calls agree. -/
theorem sound_of_reachable (h : Reachable s) : s.Sound := Books.Sound.start.steps h

/-- A run goes on where another one has ended. -/
theorem Steps.trans {s s' s'' : Books} (h : Steps s s') (h' : Steps s' s'') : Steps s s'' := by
  induction h' with
  | refl => exact h
  | step _ hstep ih => exact .step ih hstep

/-- No counter ever goes down. -/
theorem value_mono {s' : Books} (h : Reachable s) (hlater : Steps s s')
    (hfew : s'.events.length < UInt64.size) (k : Counter) :
    s.metrics.value k ≤ s'.metrics.value k := by
  have hprefix := hlater.events_prefix
  have hfew' : s.events.length < UInt64.size := Nat.lt_of_le_of_lt hprefix.length_le hfew
  rw [UInt64.le_iff_toNat_le, (sound_of_reachable h).metrics,
    (sound_of_reachable (h.trans hlater)).metrics, Metrics.toNat_value_recordAll hfew,
    Metrics.toNat_value_recordAll hfew']
  exact hprefix.sublist.countP_le

/-- While nothing is being handled, the outcomes and the results alone decide what the counters
show. -/
theorem metrics_of_rest {s' : Books} (h : Reachable s) (h' : Reachable s')
    (hrest : s.underWay = 0) (hrest' : s'.underWay = 0) (haccounts : s.accounts.Perm s'.accounts)
    (hresults : s.results.Perm s'.results) : s.metrics = s'.metrics := by
  have hs := sound_of_reachable h
  have hs' := sound_of_reachable h'
  rw [hs.metrics, hs'.metrics]
  refine Metrics.recordAll_perm _ ((hs.events_of_rest hrest).trans ?_)
  exact ((haccounts.flatMap_right story).append (hresults.map eventOf)).trans
    (hs'.events_of_rest hrest').symm

/-- **The counters account for every message in every interleaving.**  As long as fewer than
`2 ^ 64` events were counted, the counters are in balance at every moment and none of them ever
goes down; and while nothing is being handled, they do not depend on the order of what happened. -/
theorem books_balance (h : Reachable s) (hfew : s.events.length < UInt64.size) :
    s.Balanced ∧
      (∀ s', Steps s s' → s'.events.length < UInt64.size →
        ∀ k, s.metrics.value k ≤ s'.metrics.value k) ∧
      ∀ s', Reachable s' → s.underWay = 0 → s'.underWay = 0 → s.accounts.Perm s'.accounts →
        s.results.Perm s'.results → s.metrics = s'.metrics :=
  ⟨(sound_of_reachable h).balanced hfew, fun _ => value_mono h,
    fun _ h' => metrics_of_rest h h'⟩

/-- How a message without a body is handled, whatever the configuration. -/
theorem process_blank (c : Processing.Config) : Processing.process c ⟨[], none, none, 0⟩ =
    .ask (.count .received) fun _ =>
      (Processing.deadLetter .malformedPayload).bind Processing.report := by
  have hblank : Processing.Unusable c [] .malformedPayload := .malformed (by decide +kernel)
  rw [Processing.process, Processing.handle_of_unusable hblank]
  rfl

/-- A message without a body is given up while a notification is on its way to the broker. -/
theorem books_balance_sideBySide : ∃ s, Reachable s ∧ s.events.length < UInt64.size ∧
    s.metrics.received = 1 ∧ s.metrics.published = 1 ∧ s.underWay = 1 ∧ s.Balanced := by
  let c : Processing.Config := ⟨.default, "retry", "retry", none, ⟨10, 0⟩⟩
  let n : Notification := ⟨.push, none, none, "", .none, "r", 0, .empty⟩
  have empty : Reachable Books.start := .refl
  have arrived := empty.step (.arrive c ⟨[], none, none, 0⟩)
  have called := arrived.step (.call ⟨"main", "push", 1⟩ n)
  have begun := called.step (.handle [] [] c [] (.count .received) _ ()
    (congrArg (fun rest => [Handling.mk c [] rest]) (process_blank c)))
  have submitted := begun.step (.submit [] [] [] (.submit _) _ .confirmed rfl)
  have rejected := submitted.step (.handle [] [] c _ (.settle .reject) _ (.ok ()) rfl)
  have published := rejected.step (.submit [] [] _ (.count .published) _ () rfl)
  have hfew : 2 < UInt64.size := by decide
  exact ⟨_, published, hfew, rfl, rfl, rfl, (books_balance published hfew).1⟩

end Accounts

end Courier
