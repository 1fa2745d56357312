import Courier.Config.Field
import Courier.Intake.Basic
import Courier.Proofs.Notification.RoundTrip
import Courier.Proofs.Publishing.Around

/-!
# What the intake answers

A request for a notification is handled by one caller of the publisher, with other callers and the
task itself going on around it.  The answer says what was done: the notification was queued, it was
no valid one, or it could not be queued.

* `Intake.Held` : a dialogue with the publisher that one caller holds.
* `Intake.held_queue` : how a request can be handled.
* `Intake.exists_held_queue` : it can be handled whatever the channel says to it.
* `Intake.truthful_respond` : **the answer to a notification says what was done with it.**
-/

namespace Courier

namespace Intake

open Publishing (Receipt messageOf)
open Publishing.Journal (Around Knows)

/-- A dialogue that caller `i` holds with the publisher, from one journal to another: its result,
and what is counted on the way.  Others go on around the caller. -/
inductive Held (i : Nat) {α : Type} : Publishing.Task α → Publishing.Journal → α →
    List Metrics.Event → Publishing.Journal → Prop where
  /-- It ends. -/
  | done {j j' : Publishing.Journal} (a : α) (around : Around i j j') : Held i (.done a) j a [] j'
  | count {j j' : Publishing.Journal} {a : α} {events : List Metrics.Event} (event : Metrics.Event)
      (next : Unit → Publishing.Task α) (rest : Held i (next ()) j a events j') :
      Held i (.ask (.count event) next) j a (event :: events) j'
  /-- It queues a message and is told what became of it. -/
  | served {j j₁ j₂ j₃ j' : Publishing.Journal} {a : α} {events : List Metrics.Event}
      (m : Amqp.Outgoing) (next : Receipt → Publishing.Task α) (receipt : Receipt)
      (before : Around i j j₁) (queues : j₁.step? (.enqueue ⟨i, m⟩) = some j₂)
      (waits : Around i j₂ j₃) (told : (i, receipt) ∈ j₃.line.told)
      (rest : Held i (next receipt) j₃ a events j') : Held i (.ask (.submit m) next) j a events j'
  /-- It finds that the task has ended. -/
  | turnedAway {j j₁ j' : Publishing.Journal} {a : α} {events : List Metrics.Event}
      (m : Amqp.Outgoing) (next : Receipt → Publishing.Task α) (before : Around i j j₁)
      (ended : j₁.line.phase ≠ .running) (rest : Held i (next .unanswered) j₁ a events j') :
      Held i (.ask (.submit m) next) j a events j'

/-- What a caller has learned of its message: what the task told it or, if it was turned away, that
there will be no answer. -/
inductive Informed (i : Nat) (m : Amqp.Outgoing) (j : Publishing.Journal) : Receipt → Prop where
  | told {receipt : Receipt} (knows : Knows i [⟨i, m⟩] j) (told : (i, receipt) ∈ j.line.told) :
      Informed i m j receipt
  | turnedAway (knows : Knows i [] j) : Informed i m j .unanswered

variable {i : Nat} {m : Amqp.Outgoing} {j j' : Publishing.Journal} {receipt : Receipt}

namespace Informed

theorem around (h : Informed i m j receipt) (h' : Around i j j') : Informed i m j' receipt := by
  cases h with
  | told knows told => exact .told (knows.around h') (h'.told_subset told)
  | turnedAway knows => exact .turnedAway (knows.around h')

/-- What a caller has learned is what the channel said. -/
theorem answered_iff (h : Informed i m j receipt) (result : Except BrokerError Unit) :
    (⟨i, m⟩, result) ∈ j.answered ↔ receipt = Publishing.Line.receiptOf result := by
  cases h with
  | told knows told => exact knows.answered_iff rfl told
  | turnedAway knows =>
    constructor
    · intro hanswered
      cases knows.mem_jobs_of_answered hanswered rfl
    · intro hreceipt
      cases result <;> cases hreceipt

/-- The channel was given no other message of the caller. -/
theorem handed_sublist (h : Informed i m j receipt) :
    (j.handed.filter fun job => job.caller == i).Sublist [⟨i, m⟩] := by
  cases h with
  | told knows => exact knows.handed_sublist
  | turnedAway knows => exact knows.handed_sublist.trans (List.nil_sublist _)

/-- The channel was given the message if it said something to it. -/
theorem handed_eq (h : Informed i m j .confirmed) :
    (j.handed.filter fun job => job.caller == i) = [⟨i, m⟩] := by
  have hanswered := (h.answered_iff (.ok ())).2 rfl
  cases h with | told knows told =>
  have hhanded := knows.sound.answered_prefix.subset (List.mem_map_of_mem hanswered)
  have hmem : (⟨i, m⟩ : Publishing.Job) ∈ j.handed.filter fun job => job.caller == i :=
    List.mem_filter.2 ⟨hhanded, beq_self_eq_true i⟩
  exact knows.handed_sublist.eq_of_length_le (List.length_pos_of_mem hmem)

end Informed

/-- The answer for a valid notification, by what became of its message. -/
def answerTo (n : Notification) : Receipt → Response
  | .confirmed => queued n.requestId
  | .refused _ => queueFailed
  | .unanswered => queueFailed

/-- A valid notification in a request. -/
structure Valid (r : Request) (n : Notification) : Prop where
  announced : r.announcesJson = true
  size : r.body.length ≤ 2097152
  decoded : Notification.decode? r.body = some n
  valid : n.validate = .ok ()

variable {r : Request} {n : Notification} {c : Publishing.Config} {a : Response}
  {events : List Metrics.Event}

theorem read?_eq_some_iff : read? r = some n ↔ Valid r n := by
  unfold read?
  constructor
  · intro h
    split at h
    · next hform =>
      split at h
      · next n' hdecoded =>
        split at h
        · next hvalid =>
          cases h
          exact ⟨hform.1, hform.2, hdecoded, hvalid⟩
        · cases h
      · cases h
    · cases h
  · rintro ⟨announced, size, decoded, valid⟩
    rw [if_pos ⟨announced, size⟩, decoded]
    simp only [valid]

theorem queue_of_none (h : read? r = none) : queue c r = .done validationFailed := by
  rw [queue, h]

theorem queue_of_some (h : read? r = some n) :
    queue c r = .ask (.submit (messageOf c n)) fun receipt =>
      .ask (.count receipt.event) fun _ => .done (answerTo n receipt) := by
  rw [queue, h]
  refine congrArg (Dialogue.ask (Publishing.Action.submit (messageOf c n)))
    (funext fun receipt => ?_)
  cases receipt <;> rfl

/-- How a request for a notification can be handled. -/
inductive Handled (c : Publishing.Config) (r : Request) (i : Nat) (j : Publishing.Journal) :
    Response → List Metrics.Event → Prop where
  /-- There is no valid notification. -/
  | invalid (none : read? r = none) (knows : Knows i [] j) : Handled c r i j validationFailed []
  /-- Its message was handed to the publisher. -/
  | submitted (n : Notification) (receipt : Receipt) (some : read? r = some n)
      (informed : Informed i (messageOf c n) j receipt) :
      Handled c r i j (answerTo n receipt) [receipt.event]

theorem held_queue (h : Held i (queue c r) j a events j') (hk : Knows i [] j) :
    Handled c r i j' a events := by
  -- whatever became of the message, the handler counts it and answers
  have hend : ∀ {n receipt j} (_ : Informed i (messageOf c n) j receipt),
      Held i (.ask (.count receipt.event) fun _ => .done (answerTo n receipt)) j a events j' →
      a = answerTo n receipt ∧ events = [receipt.event] ∧
        Informed i (messageOf c n) j' receipt := by
    intro n receipt j hinformed h
    cases h with | count _ _ rest =>
    cases rest with | done _ around => exact ⟨rfl, rfl, hinformed.around around⟩
  cases hread : read? r with
  | none =>
    rw [queue_of_none hread] at h
    cases h with | done _ around => exact .invalid hread (hk.around around)
  | some n =>
    rw [queue_of_some hread] at h
    cases h with
    | served _ _ receipt before queues waits told rest =>
      have hknows := ((hk.around before).enqueue rfl queues).around waits
      obtain ⟨rfl, rfl, hinformed⟩ := hend (.told hknows told) rest
      exact .submitted n receipt hread hinformed
    | turnedAway _ _ before ended rest =>
      obtain ⟨rfl, rfl, hinformed⟩ := hend (.turnedAway (hk.around before)) rest
      exact .submitted n .unanswered hread hinformed

/-- A publisher that takes jobs handles a request, whatever the channel says to it. -/
theorem exists_held_queue (hk : Knows i [] j) (running : j.line.phase = .running)
    (isOpen : j.line.isOpen = true) (c : Publishing.Config) (r : Request)
    (result : Except BrokerError Unit) :
    ∃ a events j', Held i (queue c r) j a events j' ∧
      ∀ n, Valid r n → (⟨i, messageOf c n⟩, result) ∈ j'.answered := by
  cases hread : read? r with
  | none =>
    rw [queue_of_none hread]
    refine ⟨_, _, j, .done _ (.refl j), fun n hn => ?_⟩
    rw [read?_eq_some_iff.2 hn] at hread
    cases hread
  | some n =>
    rw [queue_of_some hread]
    obtain ⟨j₁, j₂, j₃, before, queues, waits, told⟩ :=
      hk.exists_served running isOpen (messageOf c n) result
    have hinformed : Informed i (messageOf c n) j₃ _ :=
      .told (((hk.around before).enqueue rfl queues).around waits) told
    refine ⟨_, _, j₃,
      .served _ _ _ before queues waits told (.count _ _ (.done _ (.refl j₃))), fun n' hn' => ?_⟩
    rw [read?_eq_some_iff.2 hn'] at hread
    cases hread
    exact (hinformed.answered_iff result).2 rfl

/-- So does one that has ended. -/
theorem exists_held_queue_of_ended (ended : j.line.phase ≠ .running) (i : Nat)
    (c : Publishing.Config) (r : Request) : ∃ a events j', Held i (queue c r) j a events j' := by
  cases hread : read? r with
  | none =>
    rw [queue_of_none hread]
    exact ⟨_, _, j, .done _ (.refl j)⟩
  | some n =>
    rw [queue_of_some hread]
    exact ⟨_, _, j, .turnedAway _ _ (.refl j) ended (.count _ _ (.done _ (.refl j)))⟩

/-! ### The promise of the intake -/

/-- The counters after some events. -/
def counted (metrics : Metrics) (events : List Metrics.Event) : Metrics :=
  events.foldl Metrics.record metrics

/-- A message that carries a notification to the workers. -/
structure Carries (c : Config) (n : Notification) (m : Amqp.Outgoing) : Prop where
  exchange : m.exchange = c.mainExchange
  routingKey : m.routingKey = c.mainRoutingKey
  persistent : m.persistent = true
  contentType : m.contentType = some "application/json"
  correlationId : m.correlationId = some n.requestId
  retryCount : m.retryCount = none
  body : (∀ x ∈ n.doubles, x.ReadsBack) → Notification.decode? m.body = some n

/-- An answer in JSON that says under which identity a request is followed. -/
def Response.Names (a : Response) (requestId : String) : Prop :=
  a.contentType = some "application/json" ∧
    ∃ v members w, a.content = .json v ∧ Json.read? v.render = some (.record members) ∧
      Json.Fields.get? members "request_id" = some w ∧ w.text? = some requestId

/-- The jobs of a caller that were handed to the channel. -/
def handedFor (i : Nat) (j : Publishing.Journal) : List Publishing.Job :=
  j.handed.filter fun job => job.caller == i

/-- What an answer says about the request of a caller, what was counted for it and the journal. -/
structure Truthful (c : Config) (r : Request) (i : Nat) (a : Response)
    (events : List Metrics.Event) (j : Publishing.Journal) : Prop where
  /-- A notification is accepted if it is valid and the channel took its message. -/
  accepted : a.status = 202 ↔
    ∃ n, Valid r n ∧ (⟨i, messageOf c.publishing n⟩, .ok ()) ∈ j.answered
  /-- Then the channel was given this message alone. -/
  queued : a.status = 202 → ∃ n m, Valid r n ∧ handedFor i j = [⟨i, m⟩] ∧ Carries c n m ∧
    a.Names n.requestId ∧
    ∀ metrics, counted metrics events = { metrics with published := metrics.published + 1 }
  /-- It is refused if it is not valid. -/
  refused : a.status = 400 ↔ ¬ ∃ n, Valid r n
  /-- Then nothing happened. -/
  untouched : a.status = 400 → handedFor i j = [] ∧ ∀ metrics, counted metrics events = metrics
  /-- Otherwise its message may have been offered to the channel. -/
  failed : a.status ≠ 202 → a.status ≠ 400 → a.status = 500 ∧ (handedFor i j).length ≤ 1 ∧
    ∀ metrics, counted metrics events =
      { metrics with publishFailures := metrics.publishFailures + 1 }

theorem carries_messageOf (c : Config) (n : Notification) :
    Carries c n (messageOf c.publishing n) :=
  ⟨rfl, rfl, rfl, rfl, rfl, rfl, Notification.decode?_encode⟩

theorem names_queued (requestId : String) : (queued requestId).Names requestId := by
  have hformed : (Json.Value.record
      [("status", .text "queued"), ("request_id", .text requestId)]).WellFormed := by
    refine Json.Value.wellFormed_record _ fun member hmember => ?_
    rcases List.mem_cons.1 hmember with rfl | hmember
    · exact Json.enclosed_quote _
    · cases List.mem_singleton.1 hmember
      exact Json.enclosed_quote _
  exact ⟨rfl, _, _, _, rfl, Json.read?_render hformed, rfl, Json.text?_text requestId⟩

theorem truthful_invalid (c : Config) (h : read? r = none) (hk : Knows i [] j) :
    Truthful c r i validationFailed [] j := by
  have hvalid : ¬ ∃ n, Valid r n := by
    rintro ⟨n, hn⟩
    rw [read?_eq_some_iff.2 hn] at h
    cases h
  have hstatus : validationFailed.status = 400 := rfl
  refine ⟨⟨nofun, fun ⟨n, hn, _⟩ => absurd ⟨n, hn⟩ hvalid⟩, nofun, ⟨fun _ => hvalid, fun _ => rfl⟩,
    fun _ => ⟨List.sublist_nil.1 hk.handed_sublist, fun _ => rfl⟩, fun _ hne => absurd hstatus hne⟩

theorem truthful_confirmed {c : Config} (hn : Valid r n)
    (h : Informed i (messageOf c.publishing n) j .confirmed) :
    Truthful c r i (queued n.requestId) [.published] j := by
  have hstatus : (queued n.requestId).status = 202 := rfl
  have hanswered := (h.answered_iff (.ok ())).2 rfl
  refine ⟨⟨fun _ => ⟨n, hn, hanswered⟩, fun _ => rfl⟩, fun _ => ⟨n, _, hn, h.handed_eq,
    carries_messageOf c n, names_queued _, fun _ => rfl⟩, ⟨nofun, fun hne => absurd ⟨n, hn⟩ hne⟩,
    nofun, fun hne => absurd hstatus hne⟩

theorem truthful_failed {c : Config} (hn : Valid r n)
    (h : Informed i (messageOf c.publishing n) j receipt) (hr : receipt ≠ .confirmed) :
    Truthful c r i queueFailed [.publishFailure] j := by
  refine ⟨⟨nofun, ?_⟩, nofun, ⟨nofun, fun hne => absurd ⟨n, hn⟩ hne⟩, nofun,
    fun _ _ => ⟨rfl, h.handed_sublist.length_le, fun _ => rfl⟩⟩
  rintro ⟨n', hn', hanswered⟩
  -- there is only one notification in a request
  cases (read?_eq_some_iff.2 hn).symm.trans (read?_eq_some_iff.2 hn')
  exact absurd ((h.answered_iff (.ok ())).1 hanswered) hr

theorem Handled.truthful {c : Config} (h : Handled c.publishing r i j a events) :
    Truthful c r i a events j := by
  cases h with
  | invalid none knows => exact truthful_invalid c none knows
  | submitted n receipt some informed =>
    have hn := read?_eq_some_iff.1 some
    cases receipt with
    | confirmed => exact truthful_confirmed hn informed
    | refused e => exact truthful_failed hn informed nofun
    | unanswered => exact truthful_failed hn informed nofun

theorem respond_post (c : Publishing.Config) (health : Health.Report) (hmethod : r.method = "POST")
    (hpath : r.path = "/notification") : respond c health r = queue c r := by
  rw [respond, if_pos hpath, if_pos hmethod]

/-- **The answer to a notification says what was done with it**, whatever the request holds and
whatever goes on around it.  An answer there is: as long as the publisher takes jobs, for everything
that the channel can say to the message, and also when the publisher has ended. -/
theorem truthful_respond (c : Config) (health : Health.Report) {r : Request}
    (hmethod : r.method = "POST") (hpath : r.path = "/notification") {i : Nat}
    {j : Publishing.Journal} (before : Around i (.start c.publishing) j) :
    (∀ a events j', Held i (respond c.publishing health r) j a events j' →
      Truthful c r i a events j') ∧
    (j.line.phase = .running → j.line.isOpen = true → ∀ result, ∃ a events j',
      Held i (respond c.publishing health r) j a events j' ∧
      ∀ n, Valid r n → (⟨i, messageOf c.publishing n⟩, result) ∈ j'.answered) ∧
    (j.line.phase ≠ .running → ∃ a events j',
      Held i (respond c.publishing health r) j a events j') := by
  have hk : Knows i [] j := (Knows.start c.publishing).around before
  rw [respond_post c.publishing health hmethod hpath]
  refine ⟨fun a events j' h => (held_queue h hk).truthful, ?_, ?_⟩
  · intro running isOpen result
    exact exists_held_queue hk running isOpen c.publishing r result
  · intro ended
    exact exists_held_queue_of_ended ended i c.publishing r

/-- A request with a token, a double and a character outside the first plane. -/
def parcelRequest : Request where
  method := "POST"
  target := "/notification?trace=1"
  headers := [("Accept", "*/*"), ("content-type", " Application/Problem+JSON; charset=utf-8")]
  body := Utf8.ofString ("\x7b\"notification_type\":\"push\",\"token\":\"abc\"," ++
    "\"request_id\":\"😀\",\"metadata\":\x7b\"x\":0.1\x7d\x7d")

/-- The channel of a new publisher takes the message of this request. -/
theorem truthful_respond_parcel : ∃ a events j',
    Held 0 (respond (Config.standard "amqp://localhost").publishing (Health.check true .zero)
      parcelRequest) (.start (Config.standard "amqp://localhost").publishing) a events j' ∧
    a.status = 202 ∧ Truthful (Config.standard "amqp://localhost") parcelRequest 0 a events j' := by
  have hvalid : (read? parcelRequest).isSome = true := by decide +kernel
  obtain ⟨n, hn⟩ := Option.isSome_iff_exists.1 hvalid
  obtain ⟨htruthful, hserved, -⟩ := truthful_respond (Config.standard "amqp://localhost")
    (Health.check true .zero) (r := parcelRequest) rfl (by decide +kernel) (i := 0) (.refl _)
  obtain ⟨a, events, j', held, hanswered⟩ := hserved rfl rfl (.ok ())
  have hhonest := htruthful a events j' held
  have hn' := read?_eq_some_iff.1 hn
  exact ⟨a, events, j', held, hhonest.accepted.2 ⟨n, hn', hanswered n hn'⟩, hhonest⟩

end Intake

end Courier
