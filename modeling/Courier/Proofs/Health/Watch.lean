import Courier.Intake.Basic
import Courier.Proofs.Metrics.Losses
import Courier.Proofs.Processing.Chain

/-!
# What the service says of its health

The service can be asked for its health at any moment of a run, in which occurrences are handled and
notifications are queued side by side while the connection comes and goes.  What it says is what has
happened: the counters show the calls, and the state tells of a lost message for ever.

* `Accounts.Books.expected` : how many calls there are of each kind.
* `Accounts.Books.Sound.toNat_value_eq` : a counter shows just that.
* `Health.Watch`, `Health.Watch.Steps` : the service with its connection, and its runs.
* `Health.Watch.Candid` : what a report has to do with the run before it.
* `Health.report_candid` : **the service tells the truth about its health, and never forgets the
  loss of a message.**
-/

namespace Courier

/-! ### What the counters show of the calls -/

namespace Accounts

open Metrics (Counter raises hits counterOf)

/-- Whether it is about to count that the delivery failed. -/
def Handling.owesFailure (h : Handling) : Bool :=
  match h.rest with
  | .ask (.count .deliveryFailure) _ => true
  | _ => false

/-- Whether the delivery failed, and this has been counted. -/
def Handling.notedFailure (h : Handling) : Bool := h.failed && !h.owesFailure

/-- How many calls there are of the kind that a counter counts. -/
def Books.expected (s : Books) : Counter → Nat
  | .published => s.results.countP fun r => r.isOk
  | .publishFailures => s.results.countP fun r => !r.isOk
  | .received => s.handlings.countP fun h => !h.past.isEmpty
  | .deliveryFailures => s.handlings.countP Handling.notedFailure
  | k => hits k s.outcomes

theorem Unreported.owesFailure {limit : Duration} {failed due : Bool} {rest : Processing.Task}
    (h : Unreported limit failed due rest) (c : Processing.Config) (past : Past) :
    Handling.owesFailure ⟨c, past, rest⟩ = due := by
  cases h <;> rfl

/-- A handling has counted a failed delivery once, as soon as it has noted it. -/
theorem Stage.raises_deliveryFailures {c : Processing.Config} {past : Past}
    {rest : Processing.Task} (h : Stage c past rest) :
    raises .deliveryFailures (Handling.counted ⟨c, past, rest⟩) =
      (Handling.notedFailure ⟨c, past, rest⟩).toNat := by
  cases h with
  | fresh o => rfl
  | unreported _ hcounted hfailed hrest =>
    rw [Handling.counted, hcounted, raises_deliveryFailures_prelude, Handling.notedFailure,
      hrest.owesFailure, Handling.failed, hfailed]
  | reported outcome _ hcounted hfailed _ =>
    obtain ⟨-, hne, -⟩ := Metrics.counterOf_ne outcome
    rw [Handling.counted, hcounted, raises_story hne, raises_deliveryFailures_prelude,
      Handling.notedFailure, Handling.failed, hfailed]
    rfl

/-- What was not published is what callers of the publisher were told so. -/
theorem raises_publishFailures (rs : List (Except PublishError Unit)) :
    raises .publishFailures (rs.map eventOf) = rs.countP fun r => !r.isOk := by
  rw [raises, List.countP_map]
  exact List.countP_congr fun r _ => by
    cases r <;> simp [eventOf, Metrics.Event.counter, Except.isOk, Except.toBool]

namespace Books.Sound

variable {s : Books}

/-- The failed deliveries that were counted are those that the handlings have noted. -/
theorem raises_deliveryFailures (hs : s.Sound) :
    raises .deliveryFailures (s.handlings.flatMap Handling.counted) =
      s.handlings.countP Handling.notedFailure := by
  have hall := hs.handlings
  generalize s.handlings = hs at hall
  induction hs with
  | nil => rfl
  | cons h hs ih =>
    rw [List.forall_mem_cons] at hall
    have hfirst : raises .deliveryFailures h.counted = h.notedFailure.toNat :=
      hall.1.raises_deliveryFailures
    rw [List.flatMap_cons, Metrics.raises_append, ih hall.2, hfirst, List.countP_cons,
      Nat.add_comm]
    cases h.notedFailure <;> rfl

/-- A counter shows how many calls there are of its kind. -/
theorem toNat_value_eq (hs : s.Sound) (hfew : s.events.length < UInt64.size) (k : Counter) :
    (s.metrics.value k).toNat = s.expected k := by
  have hbalanced := hs.balanced hfew
  cases k with
  | published => exact hbalanced.published
  | publishFailures =>
    rw [hs.toNat_value hfew, hs.tally.publishFailures, Nat.zero_add, raises_publishFailures]
    rfl
  | received => exact hbalanced.begun
  | deliveryFailures =>
    rw [hs.toNat_handled hfew (k := .deliveryFailures) nofun nofun, hs.raises_deliveryFailures]
    rfl
  | succeeded => exact hbalanced.outcomes (.succeeded "")
  | retried => exact hbalanced.outcomes (.retrying 0)
  | retryPublishFailures => exact hbalanced.outcomes (.retryLost 0)
  | ackFailures => exact hbalanced.outcomes .settlementFailed
  | deadLettered reason => exact hbalanced.outcomes (.deadLettered reason)

end Books.Sound

/-- An outcome raises the counter of lost messages exactly if it tells of a loss. -/
theorem counterOf_eq_iff (o : Outcome) :
    counterOf o = .retryPublishFailures ↔ o.isLost = true := by
  cases o <;> simp [counterOf, Outcome.isLost]

/-- The counter of lost messages is raised exactly if an outcome tells of a loss. -/
theorem hits_pos_iff (os : List Outcome) :
    0 < hits .retryPublishFailures os ↔ ∃ o ∈ os, o.isLost = true := by
  rw [hits, List.countP_pos_iff]
  simp only [decide_eq_true_eq, counterOf_eq_iff]

end Accounts

namespace Health

open Accounts (Books)
open Metrics (Counter)

/-! ### Runs of the service -/

/-- The service as its health is asked for. -/
structure Watch where
  /-- Whether there is a connection to the broker. -/
  connected : Bool
  books : Books

namespace Watch

/-- Nothing has happened. -/
def start (connected : Bool) : Watch := ⟨connected, .start⟩

/-- What can happen: a call begins or goes on, or the connection is made or lost. -/
inductive Step (w : Watch) : Watch → Prop where
  | work {books : Books} (step : Accounts.Step w.books books) : Step w { w with books := books }
  | connection (connected : Bool) : Step w { w with connected := connected }

/-- One state of the service and what can become of it. -/
inductive Steps (w : Watch) : Watch → Prop where
  | refl : Steps w w
  /-- One step more. -/
  | step {w' w'' : Watch} (before : Steps w w') (step : Step w' w'') : Steps w w''

/-- The report of the service. -/
def report (w : Watch) : Report := check w.connected w.books.metrics

/-- A message was lost: the handling of one of its occurrences has ended so. -/
def HasLost (w : Watch) : Prop := ∃ o ∈ w.books.outcomes, o.isLost = true

variable {w w' : Watch}

/-- The connection has nothing to do with the calls. -/
theorem Steps.books (h : Steps w w') : Accounts.Steps w.books w'.books := by
  induction h with
  | refl => exact .refl
  | step _ hstep ih =>
    cases hstep with
    | work hwork => exact ih.step hwork
    | connection _ => exact ih

/-- A message was lost exactly if a handling with an outcome has acknowledged its delivery and could
not publish the retry. -/
theorem hasLost_iff (h : Accounts.Reachable w.books) : w.HasLost ↔
    ∃ x ∈ w.books.handlings, x.outcome?.isSome = true ∧ x.isLost = true := by
  constructor
  · rintro ⟨o, ho, hlost⟩
    obtain ⟨x, hx, houtcome⟩ := List.mem_filterMap.1 ho
    refine ⟨x, hx, by rw [houtcome]; rfl, ?_⟩
    rw [← Accounts.outcome_isLost h hx houtcome]
    exact hlost
  · rintro ⟨x, hx, hended, hlost⟩
    obtain ⟨o, houtcome⟩ := Option.isSome_iff_exists.1 hended
    refine ⟨o, List.mem_filterMap.2 ⟨x, hx, houtcome⟩, ?_⟩
    rw [Accounts.outcome_isLost h hx houtcome]
    exact hlost

/-- The counter of lost messages tells whether one was lost. -/
theorem retryPublishFailures_pos_iff (h : Accounts.Reachable w.books)
    (hfew : w.books.events.length < UInt64.size) :
    0 < w.books.metrics.retryPublishFailures ↔ w.HasLost := by
  have hvalue : w.books.metrics.retryPublishFailures.toNat =
      Metrics.hits .retryPublishFailures w.books.outcomes :=
    (Accounts.sound_of_reachable h).toNat_value_eq hfew .retryPublishFailures
  rw [UInt64.lt_iff_toNat_lt, hvalue]
  exact Accounts.hits_pos_iff _

/-- What was lost stays lost. -/
theorem hasLost_mono (h : Accounts.Reachable w.books) (hlater : Steps w w')
    (hfew : w'.books.events.length < UInt64.size) (hlost : w.HasLost) : w'.HasLost := by
  have hbooks := hlater.books
  have hfew' : w.books.events.length < UInt64.size :=
    Nat.lt_of_le_of_lt hbooks.events_prefix.length_le hfew
  have hmono : w.books.metrics.retryPublishFailures ≤ w'.books.metrics.retryPublishFailures :=
    Accounts.value_mono h hbooks hfew .retryPublishFailures
  rw [← retryPublishFailures_pos_iff (h.trans hbooks) hfew]
  exact UInt64.lt_of_lt_of_le ((retryPublishFailures_pos_iff h hfew').2 hlost) hmono

end Watch

/-! ### The report -/

open Json (Value)

/-- Some counts as they are reported. -/
def shown (n : Counter → Nat) : Value :=
  .record [("published", .nat (n .published)), ("publish_failures", .nat (n .publishFailures)),
    ("received", .nat (n .received)), ("succeeded", .nat (n .succeeded)),
    ("delivery_failures", .nat (n .deliveryFailures)), ("retried", .nat (n .retried)),
    ("retry_publish_failures", .nat (n .retryPublishFailures)),
    ("ack_failures", .nat (n .ackFailures)),
    ("dead_lettered",
      .record [("malformed_payload", .nat (n (.deadLettered .malformedPayload))),
        ("unsupported_type", .nat (n (.deadLettered .unsupportedType))),
        ("missing_recipient", .nat (n (.deadLettered .missingRecipient))),
        ("retries_exhausted", .nat (n (.deadLettered .retriesExhausted)))])]

theorem metricsToJson_eq (m : Metrics) :
    metricsToJson m = shown fun k => (m.value k).toNat := rfl

/-- The state of the service, by its connection and by whether a message was lost. -/
theorem status_check (connected : Bool) (m : Metrics) :
    ((check connected m).status = .unhealthy ↔ connected = false) ∧
    ((check connected m).status = .degraded ↔
      connected = true ∧ 0 < m.retryPublishFailures) ∧
    ((check connected m).status = .healthy ↔
      connected = true ∧ ¬ 0 < m.retryPublishFailures) := by
  cases connected with
  | false => simp [check]
  | true => by_cases h : 0 < m.retryPublishFailures <;> simp [check, h]

/-- What a report has to do with the run before it. -/
structure Watch.Candid (w : Watch) : Prop where
  /-- The service is unhealthy without its broker. -/
  unhealthy : w.report.status = .unhealthy ↔ w.connected = false
  /-- It is degraded once a message was lost. -/
  degraded : w.report.status = .degraded ↔ w.connected = true ∧ w.HasLost
  healthy : w.report.status = .healthy ↔ w.connected = true ∧ ¬ w.HasLost
  /-- A message was lost if its delivery was acknowledged and its retry could not be published. -/
  lost : w.HasLost ↔ ∃ x ∈ w.books.handlings, x.outcome?.isSome = true ∧
    x.past.any Accounts.acknowledges = true ∧ x.past.any Accounts.refusesRetry = true
  /-- The counters show the calls. -/
  numbers : ∀ k, (w.report.pipeline.value k).toNat = w.books.expected k
  /-- While nothing is being handled, every failed delivery has been counted. -/
  failures : w.books.underWay = 0 →
    w.books.expected .deliveryFailures = w.books.handlings.countP Accounts.Handling.failed
  /-- The status code of the report tells whether the service is unhealthy. -/
  answered : ∀ (c : Publishing.Config) (r : Intake.Request), r.path = "/health" →
    r.method = "GET" → ∃ a, Intake.respond c w.report r = .done a ∧
      (a.status = 503 ↔ w.report.status = .unhealthy) ∧
      (a.status = 200 ↔ w.report.status ≠ .unhealthy) ∧ a.content = .report w.report
  /-- The counters are shown in the report, whenever it is given. -/
  told : ∀ time : Option String, w.report.toJson time =
    .record ([("status", .text w.report.status.name)] ++
      (time.map fun time => ("timestamp", .text time)).toList ++
      [("message_broker", .record ([("connected", .bool w.connected)] ++
        if w.connected then [] else [("error", .text connectionProblem)])),
      ("pipeline", shown w.books.expected)])

/-- A report is answered with one of two status codes. -/
theorem statusOf_iff (s : Status) : (Intake.statusOf s = 503 ↔ s = .unhealthy) ∧
    (Intake.statusOf s = 200 ↔ s ≠ .unhealthy) := by
  cases s <;> simp [Intake.statusOf]

theorem respond_health (c : Publishing.Config) (health : Report) {r : Intake.Request}
    (hpath : r.path = "/health") (hmethod : r.method = "GET") :
    Intake.respond c health r = .done (Intake.reportHealth health) := by
  have hne : ¬ r.path = "/notification" := by rw [hpath]; decide
  rw [Intake.respond, if_neg hne, if_pos hpath, if_pos hmethod]

theorem candid_of_reachable {w : Watch} (h : Accounts.Reachable w.books)
    (hfew : w.books.events.length < UInt64.size) : w.Candid := by
  have hs := Accounts.sound_of_reachable h
  have hnumbers : ∀ k, (w.books.metrics.value k).toNat = w.books.expected k :=
    hs.toNat_value_eq hfew
  have hlost := Watch.retryPublishFailures_pos_iff h hfew
  obtain ⟨hunhealthy, hdegraded, hhealthy⟩ := status_check w.connected w.books.metrics
  rw [hlost] at hdegraded hhealthy
  constructor
  case unhealthy => exact hunhealthy
  case degraded => exact hdegraded
  case healthy => exact hhealthy
  case lost =>
    simp only [w.hasLost_iff h, Accounts.Handling.isLost, Accounts.loses, Bool.and_eq_true]
  case numbers => exact hnumbers
  case failures =>
    intro hrest
    rw [← hnumbers]
    exact (hs.balanced hfew).failed hrest
  case answered =>
    intro c r hpath hmethod
    obtain ⟨hrefused, hanswered⟩ := statusOf_iff w.report.status
    exact ⟨_, respond_health c w.report hpath hmethod, hrefused, hanswered, rfl⟩
  case told =>
    intro time
    rw [← funext hnumbers, ← metricsToJson_eq]
    rfl

/-- **The service tells the truth about its health, and never forgets the loss of a message.**  At
every moment of every run in which fewer than `2 ^ 64` events were counted, its report is what has
happened; and once a message was lost, no report says that the service is healthy, whatever happens
afterwards. -/
theorem report_candid {connected : Bool} {w : Watch} (h : Watch.Steps (.start connected) w)
    (hfew : w.books.events.length < UInt64.size) :
    w.Candid ∧ (w.HasLost → ∀ w', Watch.Steps w w' → w'.books.events.length < UInt64.size →
      w'.report.status ≠ .healthy) := by
  have hbooks : Accounts.Reachable w.books := h.books
  refine ⟨candid_of_reachable hbooks hfew, fun hlost w' hlater hfew' hhealthy => ?_⟩
  have hcandid : w'.Candid := candid_of_reachable (hbooks.trans hlater.books) hfew'
  exact (hcandid.healthy.1 hhealthy).2 (Watch.hasLost_mono hbooks hlater hfew' hlost)

/-- How a message for a device is handled that was not retried before. -/
theorem process_brief :
    Processing.process Processing.threeRetries ⟨Processing.briefBody, none, none, 0⟩ =
      .ask (.count .received) fun _ =>
        (Processing.attempt Processing.threeRetries ⟨Processing.briefBody, none, none, 0⟩ "device"
          Processing.briefNotification).bind Processing.report := by
  rw [Processing.process, Processing.handle_of_addressed Processing.briefBody_addressed]
  rfl

/-- A retry is refused after its message was acknowledged; then the connection is lost and made
again. -/
theorem report_candid_reconnected : ∃ w, Watch.Steps (.start true) w ∧
    w.books.events.length < UInt64.size ∧ w.HasLost ∧ w.Candid ∧
    w.report.status = .degraded ∧ ∃ w', Watch.Steps w w' ∧ w'.connected = true ∧
      w'.report.status ≠ .healthy := by
  have start : Watch.Steps (.start true) (.start true) := .refl
  have arrived := start.step (.work (.arrive Processing.threeRetries
    ⟨Processing.briefBody, none, none, 0⟩))
  have begun := arrived.step (.work (.handle [] [] _ [] (.count .received) _ ()
    (congrArg (fun rest => [Accounts.Handling.mk _ [] rest]) process_brief)))
  have sent := begun.step (.work (.handle [] [] _ _ (.send "device" _) _
    ⟨0, .error (.rejected 503 "")⟩ rfl))
  have failed := sent.step (.work (.handle [] [] _ _ (.count .deliveryFailure) _ () rfl))
  have released := failed.step (.work (.handle [] [] _ _ (.settle .ack) _ (.ok ()) rfl))
  have refused := released.step (.work (.handle [] [] _ _ (.publish _) _
    (.error (.publishNacked "retry")) rfl))
  have lost := refused.step (.work (.handle [] [] _ _ (.count (.outcome (.retryLost 1))) _ () rfl))
  have hfew : 3 < UInt64.size := by decide
  obtain ⟨hcandid, hforever⟩ := report_candid lost hfew
  have hlost : ∃ o ∈ [Outcome.retryLost 1], o.isLost = true := ⟨_, List.mem_singleton.2 rfl, rfl⟩
  have again (w : Watch) : Watch.Steps w { w with connected := true } :=
    (Watch.Steps.refl.step (.connection false)).step (.connection true)
  exact ⟨_, lost, hfew, hlost, hcandid, rfl, _, again _, rfl, hforever hlost _ (again _) hfew⟩

end Health

end Courier
