import Courier.Processing
import Courier.Proofs.Transcript

/-!
# The course of one occurrence

What a worker does with an occurrence is what its partners see of it: the calls of the provider,
the settlements and the publications, each with what came of it.  There are five courses, and every
occurrence takes one of them whatever its partners answer.

* `Processing.effects` : what the partners see, in order.
* `Processing.Course` : the five courses, each with its effects and its outcome.
* `Processing.process_course` : the handling of an occurrence takes one of them; its outcome is
  `settlementFailed` exactly if the settlement failed; and what follows the call of the provider
  depends on the reply only through whether, and under which identity, the message was delivered.
-/

namespace Courier

namespace Processing

/-- What the partners of a worker see, and what came of it. -/
inductive Effect where
  /-- The provider was given a notification for a device. -/
  | send (token : String) (notification : Notification) (reply : Reply)
  /-- The delivery was settled, or should have been. -/
  | settle (settlement : Amqp.Settlement) (result : Except BrokerError Unit)
  /-- A channel was given a message. -/
  | publish (message : Amqp.Outgoing) (result : Except BrokerError Unit)

/-- What the partners see of an action; they do not see what is counted. -/
def effect? : (a : Action) × a.Answer → Option Effect
  | ⟨.count _, _⟩ => none
  | ⟨.send token n, reply⟩ => some (.send token n reply)
  | ⟨.settle s, result⟩ => some (.settle s result)
  | ⟨.publish m, result⟩ => some (.publish m result)

variable {σ : Type} (world : (a : Action) → σ → a.Answer × σ)

/-- What the partners see of a task, in order. -/
def effects (t : Task) (s : σ) : List Effect := (t.transcript world s).filterMap effect?

/-! ### What each step adds -/

@[simp] theorem effects_done (outcome : Outcome) (s : σ) :
    effects world (.done outcome) s = [] := rfl

@[simp] theorem effects_count (e : Metrics.Event) (next : (Action.count e).Answer → Task) (s : σ) :
    effects world (.ask (.count e) next) s =
      effects world (next (world (.count e) s).1) (world (.count e) s).2 := rfl

@[simp] theorem effects_send (token : String) (n : Notification)
    (next : (Action.send token n).Answer → Task) (s : σ) :
    effects world (.ask (.send token n) next) s =
      .send token n (world (.send token n) s).1 ::
        effects world (next (world (.send token n) s).1) (world (.send token n) s).2 := rfl

@[simp] theorem effects_settle (k : Amqp.Settlement) (next : (Action.settle k).Answer → Task)
    (s : σ) :
    effects world (.ask (.settle k) next) s =
      .settle k (world (.settle k) s).1 ::
        effects world (next (world (.settle k) s).1) (world (.settle k) s).2 := rfl

@[simp] theorem effects_publish (m : Amqp.Outgoing) (next : (Action.publish m).Answer → Task)
    (s : σ) :
    effects world (.ask (.publish m) next) s =
      .publish m (world (.publish m) s).1 ::
        effects world (next (world (.publish m) s).1) (world (.publish m) s).2 := rfl

/-- The effects of two tasks in a row are those of the first and then those of the second. -/
theorem effects_bind (t : Task) (f : Outcome → Task) (s : σ) :
    effects world (t.bind f) s =
      effects world t s ++ effects world (f (t.run world s).1) (t.run world s).2 := by
  simp only [effects, Dialogue.transcript_bind, List.filterMap_append]

/-- Counting the arrival and the outcome is no effect. -/
theorem effects_process (c : Config) (o : Amqp.Occurrence) (s : σ) :
    effects world (process c o) s = effects world (handle c o) (world (.count .received) s).2 := by
  simp only [process, effects_count, effects_bind, effects_done, List.append_nil]

/-- Counting the arrival and the outcome leaves the outcome as it is. -/
theorem run_process (c : Config) (o : Amqp.Occurrence) (s : σ) :
    ((process c o).run world s).1 = ((handle c o).run world (world (.count .received) s).2).1 := by
  simp only [process, Dialogue.run_ask, Dialogue.run_bind, Dialogue.run_done]

/-! ### The five courses -/

/-- A body that no delivery can be attempted for, and why. -/
inductive Unusable (c : Config) (body : Bytes) : DeadLetterReason → Prop where
  /-- It is no notification. -/
  | malformed : Notification.decode? body = none → Unusable c body .malformedPayload
  /-- It is a notification by another medium. -/
  | unsupported {n : Notification} :
    Notification.decode? body = some n → n.medium ≠ .push → Unusable c body .unsupportedType
  /-- It names no device, and there is no default one. -/
  | missing {n : Notification} :
    Notification.decode? body = some n → n.medium = .push → n.recipient? c.defaultToken = none →
      Unusable c body .missingRecipient

/-- The notification of a body is meant for a device. -/
structure Addressed (c : Config) (body : Bytes) (token : String) (n : Notification) : Prop where
  decoded : Notification.decode? body = some n
  /-- The medium is the push provider. -/
  push : n.medium = .push
  /-- The device is its recipient. -/
  recipient : n.recipient? c.defaultToken = some token

/-- A body is unusable or meant for a device. -/
theorem unusable_or_addressed (c : Config) (body : Bytes) :
    (∃ reason, Unusable c body reason) ∨ ∃ token n, Addressed c body token n := by
  cases hd : Notification.decode? body with
  | none => exact .inl ⟨_, .malformed hd⟩
  | some n =>
    by_cases hm : n.medium = .push
    · cases hr : n.recipient? c.defaultToken with
      | none => exact .inl ⟨_, .missing hd hm hr⟩
      | some token => exact .inr ⟨token, n, hd, hm, hr⟩
    · exact .inl ⟨_, .unsupported hd hm⟩

/-- The delivery failed: the provider refused it, or its answer came too late. -/
def Failed (c : Config) (reply : Reply) : Prop :=
  c.deliveryTimeout.millis < reply.delay ∨ ∃ e, reply.result = .error e

/-- The outcome of a settlement that was to end in `outcome`. -/
def settled (result : Except BrokerError Unit) (outcome : Outcome) : Outcome :=
  match result with
  | .ok () => outcome
  | .error _ => .settlementFailed

/-- The outcome of publishing a retry with a counter. -/
def republished (result : Except BrokerError Unit) (next : UInt32) : Outcome :=
  match result with
  | .ok () => .retrying next
  | .error _ => .retryLost next

/-- What can happen to an occurrence: the effects in order, and the outcome. -/
inductive Course (c : Config) (o : Amqp.Occurrence) : List Effect → Outcome → Prop where
  /-- An unusable body is rejected, and the provider is not called. -/
  | refused {reason : DeadLetterReason} (result : Except BrokerError Unit) :
    Unusable c o.body reason →
      Course c o [.settle .reject result] (settled result (.deadLettered reason))
  /-- A delivery that succeeded in time is acknowledged. -/
  | delivered {token id : String} {n : Notification} {reply : Reply}
      (result : Except BrokerError Unit) :
    Addressed c o.body token n → reply.delay ≤ c.deliveryTimeout.millis → reply.result = .ok id →
      Course c o [.send token n reply, .settle .ack result] (settled result (.succeeded id))
  /-- A failed delivery with retries left could not be acknowledged; then nothing is published. -/
  | unacknowledged {token : String} {n : Notification} {reply : Reply} (e : BrokerError) :
    Addressed c o.body token n → Failed c reply → o.retryCount < c.policy.maxRetries →
      Course c o [.send token n reply, .settle .ack (.error e)] .settlementFailed
  /-- A failed delivery without retries left is rejected. -/
  | exhausted {token : String} {n : Notification} {reply : Reply}
      (result : Except BrokerError Unit) :
    Addressed c o.body token n → Failed c reply → c.policy.maxRetries ≤ o.retryCount →
      Course c o [.send token n reply, .settle .reject result]
        (settled result (.deadLettered .retriesExhausted))
  /-- A failed delivery with retries left is acknowledged, and then its retry is published. -/
  | retried {token : String} {n : Notification} {reply : Reply}
      (result : Except BrokerError Unit) :
    Addressed c o.body token n → Failed c reply → o.retryCount < c.policy.maxRetries →
      Course c o
        [.send token n reply, .settle .ack (.ok ()),
          .publish (retryOf c o (o.retryCount + 1)) result]
        (republished result (o.retryCount + 1))

/-! ### Every occurrence takes one of them -/

variable {world} {c : Config} {o : Amqp.Occurrence}

/-- A settlement is one effect. -/
theorem effects_settleWith (k : Amqp.Settlement) (outcome : Outcome) (s : σ) :
    effects world (settleWith k outcome) s = [.settle k (world (.settle k) s).1] := by
  simp only [settleWith, effects_settle]
  split <;> rfl

/-- A settlement ends as it was meant to, or as failed. -/
theorem run_settleWith (k : Amqp.Settlement) (outcome : Outcome) (s : σ) :
    ((settleWith k outcome).run world s).1 = settled (world (.settle k) s).1 outcome := by
  simp only [settleWith, Dialogue.run_ask]
  cases (world (.settle k) s).1 <;> rfl

/-- The identity under which the message was delivered, if it was delivered within the limit. -/
def Reply.delivered? (reply : Reply) (limit : Duration) : Option String :=
  (reply.within limit).toOption

theorem delivered?_eq_some_iff {reply : Reply} {limit : Duration} {id : String} :
    reply.delivered? limit = some id ↔ reply.delay ≤ limit.millis ∧ reply.result = .ok id := by
  unfold Reply.delivered? Reply.within
  by_cases hd : reply.delay ≤ limit.millis
  · cases hr : reply.result <;> simp [hd, Except.toOption]
  · simp [hd, Except.toOption]

theorem delivered?_eq_none_iff {reply : Reply} :
    reply.delivered? c.deliveryTimeout = none ↔ Failed c reply := by
  unfold Reply.delivered? Reply.within Failed
  by_cases hd : reply.delay ≤ c.deliveryTimeout.millis
  · cases hr : reply.result <;> simp [hd, Except.toOption]
  · simp [hd, Except.toOption, Nat.lt_of_not_le hd]

/-- What follows a reply, by what was delivered. -/
def proceed (c : Config) (o : Amqp.Occurrence) : Option String → Task
  | some id => settleWith .ack (.succeeded id)
  | none => .ask (.count .deliveryFailure) fun _ => afterFailure c o

/-- What follows the call of the provider depends only on what was delivered. -/
theorem attempt_eq (c : Config) (o : Amqp.Occurrence) (token : String) (n : Notification) :
    attempt c o token n =
      .ask (.send token n) fun (reply : Reply) =>
        proceed c o (reply.delivered? c.deliveryTimeout) := by
  unfold attempt
  congr 1
  funext reply
  unfold Reply.delivered?
  cases reply.within c.deliveryTimeout <;> rfl

theorem handle_of_unusable {reason : DeadLetterReason} (h : Unusable c o.body reason) :
    handle c o = deadLetter reason := by
  cases h with
  | malformed hd => simp only [handle, hd]
  | @unsupported n hd hm =>
    cases hn : n.medium with
    | push => exact absurd hn hm
    | email => simp only [handle, hd, hn]
  | missing hd hm hr => simp only [handle, hd, hm, hr]

theorem handle_of_addressed {token : String} {n : Notification} (h : Addressed c o.body token n) :
    handle c o = attempt c o token n := by
  simp only [handle, h.decoded, h.push, h.recipient]

theorem afterFailure_of_lt (h : o.retryCount < c.policy.maxRetries) :
    afterFailure c o = retry c o (o.retryCount + 1) := by
  simp only [afterFailure, RetryPolicy.afterFailure, if_pos h]

theorem afterFailure_of_le (h : c.policy.maxRetries ≤ o.retryCount) :
    afterFailure c o = deadLetter .retriesExhausted := by
  simp only [afterFailure, RetryPolicy.afterFailure, if_neg (UInt32.not_lt.2 h)]

/-- Publishing a retry is one effect. -/
theorem effects_republish (next : UInt32) (s : σ) :
    effects world (republish c o next) s =
      [.publish (retryOf c o next) (world (.publish (retryOf c o next)) s).1] := by
  simp only [republish, effects_publish]
  split <;> rfl

theorem run_republish (next : UInt32) (s : σ) :
    ((republish c o next).run world s).1 =
      republished (world (.publish (retryOf c o next)) s).1 next := by
  simp only [republish, Dialogue.run_ask]
  cases (world (.publish (retryOf c o next)) s).1 <;> rfl

/-- The course of an unusable body. -/
theorem course_of_unusable {reason : DeadLetterReason} (h : Unusable c o.body reason) (s : σ) :
    Course c o (effects world (handle c o) s) ((handle c o).run world s).1 := by
  rw [handle_of_unusable h, deadLetter, effects_settleWith, run_settleWith]
  exact .refused _ h

/-- The course of a failed delivery, after the call of the provider. -/
theorem course_of_failed {token : String} {n : Notification} {reply : Reply}
    (h : Addressed c o.body token n) (hf : Failed c reply) (s : σ) :
    Course c o (.send token n reply :: effects world (afterFailure c o) s)
      ((afterFailure c o).run world s).1 := by
  by_cases hlt : o.retryCount < c.policy.maxRetries
  · rw [afterFailure_of_lt hlt, retry, effects_settle, Dialogue.run_ask]
    cases hack : (world (.settle .ack) s).1 with
    | error e => exact .unacknowledged e h hf hlt
    | ok _ =>
      simp only [effects_republish, run_republish]
      exact .retried _ h hf hlt
  · have hle := UInt32.not_lt.1 hlt
    rw [afterFailure_of_le hle, deadLetter, effects_settleWith, run_settleWith]
    exact .exhausted _ h hf hle

/-- The course of a body that is meant for a device. -/
theorem course_of_addressed {token : String} {n : Notification} (h : Addressed c o.body token n)
    (s : σ) : Course c o (effects world (handle c o) s) ((handle c o).run world s).1 := by
  rw [handle_of_addressed h, attempt_eq, effects_send, Dialogue.run_ask]
  -- the reply gets a name, since the cases below are about what it means and not where it is from
  obtain ⟨reply, hreply⟩ : ∃ reply : Reply, (world (.send token n) s).1 = reply := ⟨_, rfl⟩
  rw [hreply]
  cases hd : reply.delivered? c.deliveryTimeout with
  | some id =>
    obtain ⟨hdelay, hresult⟩ := delivered?_eq_some_iff.1 hd
    simp only [proceed, effects_settleWith, run_settleWith]
    exact .delivered _ h hdelay hresult
  | none =>
    simp only [proceed, effects_count, Dialogue.run_ask]
    exact course_of_failed h (delivered?_eq_none_iff.1 hd) _

/-- A course ends as `settlementFailed` exactly if the settlement in it failed. -/
theorem Course.settlementFailed_iff {es : List Effect} {outcome : Outcome}
    (h : Course c o es outcome) :
    outcome = .settlementFailed ↔ ∃ k e, Effect.settle k (.error e) ∈ es := by
  cases h with
  | refused result | delivered result | exhausted result =>
    cases result <;> simp [settled]
  | unacknowledged e => simp
  -- a retry that could not be published is an outcome of its own
  | retried result => cases result <;> simp [republished]

/-- **One occurrence, one settlement.**  Whatever its partners answer, a worker takes an occurrence
through one of the five courses.  The outcome is `settlementFailed` exactly if the one settlement
failed.  A worker that calls the provider goes on by nothing of its reply but whether, and under
which identity, the message was delivered in time. -/
theorem process_course (c : Config) (o : Amqp.Occurrence) {σ : Type}
    (world : (a : Action) → σ → a.Answer × σ) (s : σ) :
    Course c o (effects world (process c o) s) ((process c o).run world s).1 ∧
    (((process c o).run world s).1 = .settlementFailed ↔
      ∃ k e, Effect.settle k (.error e) ∈ effects world (process c o) s) ∧
    ((∃ reason, Unusable c o.body reason) ∨
      ∃ token n, ∃ rest : Option String → Task, process c o =
        .ask (.count .received) fun _ => .ask (.send token n) fun (reply : Reply) =>
          rest (reply.delivered? c.deliveryTimeout)) := by
  have hcourse : Course c o (effects world (process c o) s) ((process c o).run world s).1 := by
    rw [effects_process, run_process]
    rcases unusable_or_addressed c o.body with ⟨reason, h⟩ | ⟨token, n, h⟩
    · exact course_of_unusable h _
    · exact course_of_addressed h _
  refine ⟨hcourse, hcourse.settlementFailed_iff, ?_⟩
  rcases unusable_or_addressed c o.body with h | ⟨token, n, h⟩
  · exact .inl h
  · refine .inr ⟨token, n, fun delivered => (proceed c o delivered).bind fun outcome =>
      .ask (.count (.outcome outcome)) fun _ => .done outcome, ?_⟩
    rw [process, handle_of_addressed h, attempt_eq]
    rfl

end Processing

end Courier
