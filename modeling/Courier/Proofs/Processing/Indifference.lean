import Courier.Proofs.Metrics.Accounts
import Courier.Proofs.Processing.Chain
import Courier.Provider.Payload
import Mathlib.Data.List.Forall2

/-!
# What does not influence a handling

A notification can be spelled in many ways, and its priority is carried along without effect.  So two
bodies that are read as the same notification, up to the priority, are handled alike by partners that
answer alike: the same is counted, the same device is called, the delivery is settled in the same way
and the outcome is the same.  Only what is passed on differs: a retry carries the body that was
received, octet by octet, and no new spelling of what was read.

* `Processing.Twin` : tasks that ask the same questions, up to the priority of notifications and the
  body of retries, and go on alike after the same answers.
* `Processing.twin_process` : the handlings of two such bodies are twins.
* `Processing.Impartial` : worlds that answer the questions of twins alike.
* `Processing.Twin.alike` : with such worlds, twins have the same course.
* `Processing.process_indifferent` : **neither the priority nor the spelling of a body has an
  influence** on its handling or on what the provider is sent.
-/

namespace Courier

/-- Notifications that differ at most in their priority. -/
def Notification.SameButPriority (n n' : Notification) : Prop :=
  ∃ priority, n' = { n with priority := priority }

/-- The provider is not sent the priority. -/
theorem Provider.payloadOf_of_sameButPriority {n n' : Notification} (h : n.SameButPriority n')
    (token : String) : payloadOf token n = payloadOf token n' := by
  obtain ⟨priority, rfl⟩ := h
  rfl

namespace Processing

/-! ### Twins -/

/-- Tasks that ask the same questions, up to the priority of notifications and the body of retries,
which is one's own; and after the same answers they go on as twins. -/
inductive Twin (body body' : Bytes) : Task → Task → Prop where
  | done (outcome : Outcome) : Twin body body' (.done outcome) (.done outcome)
  | count (e : Metrics.Event) {next next' : Unit → Task} :
    (∀ answer, Twin body body' (next answer) (next' answer)) →
      Twin body body' (.ask (.count e) next) (.ask (.count e) next')
  | send (token : String) {n n' : Notification} {next next' : Reply → Task} :
    n.SameButPriority n' → (∀ reply, Twin body body' (next reply) (next' reply)) →
      Twin body body' (.ask (.send token n) next) (.ask (.send token n') next')
  | settle (k : Amqp.Settlement) {next next' : Except BrokerError Unit → Task} :
    (∀ result, Twin body body' (next result) (next' result)) →
      Twin body body' (.ask (.settle k) next) (.ask (.settle k) next')
  | publish (m : Amqp.Outgoing) {next next' : Except BrokerError Unit → Task} :
    (∀ result, Twin body body' (next result) (next' result)) →
      Twin body body' (.ask (.publish { m with body := body }) next)
        (.ask (.publish { m with body := body' }) next')

variable {body body' : Bytes} {t t' : Task} {c : Config} {o : Amqp.Occurrence}

/-- Twins stay twins when the same comes after them. -/
theorem Twin.bind {f f' : Outcome → Task} (h : Twin body body' t t')
    (hf : ∀ outcome, Twin body body' (f outcome) (f' outcome)) :
    Twin body body' (t.bind f) (t'.bind f') := by
  induction h with
  | done outcome => exact hf outcome
  | count e _ ih => exact .count e ih
  | send token h _ ih => exact .send token h ih
  | settle k _ ih => exact .settle k ih
  | publish m _ ih => exact .publish m ih

theorem twin_settleWith (k : Amqp.Settlement) (outcome : Outcome) :
    Twin body body' (settleWith k outcome) (settleWith k outcome) := by
  refine .settle k fun result => ?_
  cases result with
  | ok _ => exact .done outcome
  | error _ => exact .done .settlementFailed

/-- Each retry carries its own body. -/
theorem twin_republish (next : UInt32) :
    Twin o.body body' (republish c o next) (republish c { o with body := body' } next) := by
  refine .publish (retryOf c o next) fun result => ?_
  cases result with
  | ok _ => exact .done (.retrying next)
  | error _ => exact .done (.retryLost next)

theorem twin_afterFailure :
    Twin o.body body' (afterFailure c o) (afterFailure c { o with body := body' }) := by
  unfold afterFailure
  cases c.policy.afterFailure o.retryCount with
  | deadLetter => exact twin_settleWith _ _
  | retry next =>
    refine .settle .ack fun result => ?_
    cases result with
    | ok _ => exact twin_republish next
    | error _ => exact .done .settlementFailed

theorem twin_proceed (delivered : Option String) :
    Twin o.body body' (proceed c o delivered) (proceed c { o with body := body' } delivered) := by
  cases delivered with
  | some id => exact twin_settleWith _ _
  | none => exact .count .deliveryFailure fun _ => twin_afterFailure

/-- A body is unusable whatever its priority is and however it is spelled. -/
theorem Unusable.twin {body : Bytes} {n n' : Notification} {reason : DeadLetterReason}
    (hu : Unusable c body reason) (hn : Notification.decode? body = some n)
    (hn' : Notification.decode? body' = some n') (h : n.SameButPriority n') :
    Unusable c body' reason := by
  obtain ⟨priority, rfl⟩ := h
  cases hu with
  | malformed hd => cases hd.symm.trans hn
  | unsupported hd hm =>
    obtain rfl := Option.some.inj (hd.symm.trans hn)
    exact .unsupported hn' hm
  | missing hd hm hr =>
    obtain rfl := Option.some.inj (hd.symm.trans hn)
    exact .missing hn' hm hr

/-- So is the device that it is meant for. -/
theorem Addressed.twin {body : Bytes} {n n' : Notification} {token : String}
    (ha : Addressed c body token n) (hn' : Notification.decode? body' = some n')
    (h : n.SameButPriority n') : Addressed c body' token n' := by
  obtain ⟨priority, rfl⟩ := h
  exact ⟨hn', ha.push, ha.recipient⟩

theorem twin_handle {n n' : Notification} (hn : Notification.decode? o.body = some n)
    (hn' : Notification.decode? body' = some n') (h : n.SameButPriority n') :
    Twin o.body body' (handle c o) (handle c { o with body := body' }) := by
  rcases unusable_or_addressed c o.body with ⟨reason, hu⟩ | ⟨token, m, ha⟩
  · have hu' : Unusable c { o with body := body' }.body reason := hu.twin hn hn' h
    rw [handle_of_unusable hu, handle_of_unusable hu']
    exact twin_settleWith _ _
  · obtain rfl := Option.some.inj (ha.decoded.symm.trans hn)
    have ha' : Addressed c { o with body := body' }.body token n' := ha.twin hn' h
    rw [handle_of_addressed ha, handle_of_addressed ha', attempt_eq, attempt_eq]
    exact .send token h fun reply => twin_proceed _

/-- **The handlings of two bodies with the same notification, up to the priority, are twins.** -/
theorem twin_process {n n' : Notification} (hn : Notification.decode? o.body = some n)
    (hn' : Notification.decode? body' = some n') (h : n.SameButPriority n') :
    Twin o.body body' (process c o) (process c { o with body := body' }) := by
  refine .count .received fun _ => (twin_handle hn hn' h).bind fun outcome => ?_
  exact .count (.outcome outcome) fun _ => .done outcome

/-! ### Runs of twins -/

/-- Effects that are the same up to the priority of notifications and the body of retries. -/
inductive Effect.Twin (body body' : Bytes) : Effect → Effect → Prop where
  | send (token : String) {n n' : Notification} (reply : Reply) :
    n.SameButPriority n' → Effect.Twin body body' (.send token n reply) (.send token n' reply)
  | settle (k : Amqp.Settlement) (result : Except BrokerError Unit) :
    Effect.Twin body body' (.settle k result) (.settle k result)
  | publish (m : Amqp.Outgoing) (result : Except BrokerError Unit) :
    Effect.Twin body body' (.publish { m with body := body } result)
      (.publish { m with body := body' } result)

variable {σ σ' : Type}

/-- What a task counts, in order. -/
def counted (world : (a : Action) → σ → a.Answer × σ) (t : Task) (s : σ) : List Metrics.Event :=
  (t.transcript world s).filterMap fun x => Accounts.counted? x.1

/-- Worlds that answer the questions of twins alike, and whose states are in a relation that says
so for later. -/
structure Impartial (world : (a : Action) → σ → a.Answer × σ)
    (world' : (a : Action) → σ' → a.Answer × σ') (R : σ → σ' → Prop) (body body' : Bytes) :
    Prop where
  count : ∀ e s s', R s s' → R (world (.count e) s).2 (world' (.count e) s').2
  send : ∀ token n n' s s', n.SameButPriority n' → R s s' →
    (world' (.send token n') s').1 = (world (.send token n) s).1 ∧
      R (world (.send token n) s).2 (world' (.send token n') s').2
  settle : ∀ k s s', R s s' → (world' (.settle k) s').1 = (world (.settle k) s).1 ∧
    R (world (.settle k) s).2 (world' (.settle k) s').2
  publish : ∀ (m : Amqp.Outgoing) s s', R s s' →
    (world' (.publish { m with body := body' }) s').1 =
        (world (.publish { m with body := body }) s).1 ∧
      R (world (.publish { m with body := body }) s).2
        (world' (.publish { m with body := body' }) s').2

/-- Two tasks have the same course with two worlds. -/
structure Alike (world : (a : Action) → σ → a.Answer × σ)
    (world' : (a : Action) → σ' → a.Answer × σ') (body body' : Bytes) (t t' : Task) (s : σ)
    (s' : σ') : Prop where
  /-- They end in the same way. -/
  outcome : (t'.run world' s').1 = (t.run world s).1
  /-- They count the same. -/
  counted : counted world' t' s' = counted world t s
  /-- They have the same effects, in the same order. -/
  effects : List.Forall₂ (Effect.Twin body body') (effects world t s) (effects world' t' s')

variable {world : (a : Action) → σ → a.Answer × σ} {world' : (a : Action) → σ' → a.Answer × σ'}
  {R : σ → σ' → Prop}

/-- Two tasks have the same course if they have it after their first questions, which count the same
and are the same to their partners. -/
theorem Alike.ask {q q' : Action} {next : q.Answer → Task} {next' : q'.Answer → Task}
    {answer : q.Answer} {answer' : q'.Answer} {s : σ} {s' : σ'}
    (hanswer : (world q s).1 = answer) (hanswer' : (world' q' s').1 = answer')
    (hcounted : Accounts.counted? q' = Accounts.counted? q)
    (heffect : Option.Rel (Effect.Twin body body') (effect? ⟨q, answer⟩) (effect? ⟨q', answer'⟩))
    (h : Alike world world' body body' (next answer) (next' answer') (world q s).2
      (world' q' s').2) :
    Alike world world' body body' (.ask q next) (.ask q' next') s s' := by
  subst hanswer hanswer'
  refine ⟨h.outcome, ?_, ?_⟩
  · have hrest := h.counted
    simp only [Processing.counted] at hrest
    simp only [Processing.counted, Dialogue.transcript_ask, List.filterMap_cons, hcounted, hrest]
  · have hrest := h.effects
    simp only [Processing.effects] at hrest
    simp only [Processing.effects, Dialogue.transcript_ask, List.filterMap_cons]
    generalize effect? ⟨q, (world q s).1⟩ = e at heffect ⊢
    generalize effect? ⟨q', (world' q' s').1⟩ = e' at heffect ⊢
    cases heffect with
    | none => exact hrest
    | some heffect => exact .cons heffect hrest

/-- With worlds that answer their questions alike, twins have the same course. -/
theorem Twin.alike (h : Twin body body' t t') (hw : Impartial world world' R body body') {s : σ}
    {s' : σ'} (hs : R s s') : Alike world world' body body' t t' s s' := by
  -- every question is answered as that of the twin is, and leaves states that are related again
  induction h generalizing s s' with
  | done outcome => exact ⟨rfl, rfl, .nil⟩
  | count e _ ih => exact .ask rfl rfl rfl .none (ih _ (hw.count e s s' hs))
  | @send token n n' next next' hn _ ih =>
    obtain ⟨hanswer, hR⟩ := hw.send token n n' s s' hn hs
    exact .ask rfl hanswer rfl (.some (.send token _ hn)) (ih _ hR)
  | settle k _ ih =>
    obtain ⟨hanswer, hR⟩ := hw.settle k s s' hs
    exact .ask rfl hanswer rfl (.some (.settle k _)) (ih _ hR)
  | publish m _ ih =>
    obtain ⟨hanswer, hR⟩ := hw.publish m s s' hs
    exact .ask rfl hanswer rfl (.some (.publish m _)) (ih _ hR)

/-- **Neither the priority nor the spelling of a body has an influence.**  Whatever the counter, the
configuration and the answers of the partners are, two bodies that are read as the same notification,
up to the priority, are handled alike, and each retry carries the body that was received.  The
provider is sent the same. -/
theorem process_indifferent (c : Config) (o : Amqp.Occurrence) {n n' : Notification}
    (hn : Notification.decode? o.body = some n) (hn' : Notification.decode? body' = some n')
    (h : n.SameButPriority n') :
    (∀ {σ σ' : Type} (world : (a : Action) → σ → a.Answer × σ)
      (world' : (a : Action) → σ' → a.Answer × σ') (R : σ → σ' → Prop) (s : σ) (s' : σ'),
      Impartial world world' R o.body body' → R s s' →
        Alike world world' o.body body' (process c o) (process c { o with body := body' }) s s') ∧
    ∀ token, Provider.payloadOf token n = Provider.payloadOf token n' :=
  ⟨fun _ _ _ _ _ hw hs => (twin_process hn hn' h).alike hw hs,
    Provider.payloadOf_of_sameButPriority h⟩

/-- The body of a brief notification with a priority, in another order and with a member that is no
field. -/
def respelledBody : Bytes := Utf8.ofString
  "\x7b\"x\":[], \"priority\":7, \"request_id\":\"\\u0072\", \"notification_type\":\"push\"\x7d"

/-- A reply that gives the same answers to everybody gives them to twins. -/
theorem impartial_willing (reply : Reply) :
    Impartial (willing reply) (willing reply) (fun _ _ => True) body body' where
  count _ _ _ _ := trivial
  send _ _ _ _ _ _ _ := ⟨rfl, trivial⟩
  settle _ _ _ _ := ⟨rfl, trivial⟩
  publish _ _ _ _ := ⟨rfl, trivial⟩

/-- After a refusal, each of two spellings is published again as it was received. -/
theorem process_indifferent_respelled :
    Notification.decode? briefBody = some briefNotification ∧
    Notification.decode? respelledBody = some { briefNotification with priority := 7 } ∧
    Alike (willing ⟨0, .error (.rejected 503 "")⟩) (willing ⟨0, .error (.rejected 503 "")⟩)
      briefBody respelledBody (process threeRetries ⟨briefBody, none, some "r", 1⟩)
      (process threeRetries ⟨respelledBody, none, some "r", 1⟩) () () ∧
    Provider.payloadOf "device" briefNotification =
      Provider.payloadOf "device" { briefNotification with priority := 7 } := by
  have hn := briefBody_addressed.decoded
  have hn' : Notification.decode? respelledBody = some { briefNotification with priority := 7 } := by
    decide +kernel
  obtain ⟨halike, hpayload⟩ :=
    process_indifferent threeRetries ⟨briefBody, none, some "r", 1⟩ hn hn' ⟨7, rfl⟩
  exact ⟨hn, hn', halike _ _ _ () () (impartial_willing _) trivial, hpayload "device"⟩

end Processing

end Courier
