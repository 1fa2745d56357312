import Courier.Proofs.Amqp.RetryCounter
import Courier.Proofs.Processing.Course

/-!
# Chains of retries

A retry that was published comes back as the next occurrence of its message, with the counter that
is read from its headers.  The attempts on one message, when every settlement and every publication
succeeds, form a chain that is driven by the replies of the provider alone.

* `Processing.chain` : the attempts for a script of replies, which may be finite or not.
* `Processing.chain_exact` : **a chain is bounded and exact.**  With `left` retries left there are
  at most `left + 1` attempts; a first success ends the chain, and otherwise the last attempt gives
  the message up; all attempts before the last are acknowledged and published again with counters
  that go up by one; and every retry is the message itself.
-/

namespace Courier

namespace Processing

/-- A world in which the provider gives one reply and everything else succeeds. -/
def willing (reply : Reply) (a : Action) (_ : Unit) : a.Answer × Unit :=
  match a with
  | .count _ => ((), ())
  | .send .. => (reply, ())
  | .settle _ => (.ok (), ())
  | .publish _ => (.ok (), ())

/-- One attempt on a message. -/
structure Attempt where
  /-- What was handed out. -/
  occurrence : Amqp.Occurrence
  /-- What the partners of the worker saw. -/
  effects : List Effect
  /-- How it ended. -/
  outcome : Outcome

namespace Attempt

/-- How the occurrence was settled, call by call. -/
def settlements (a : Attempt) : List Amqp.Settlement :=
  a.effects.filterMap fun
    | .settle k _ => some k
    | _ => none

/-- The messages that were published. -/
def published (a : Attempt) : List Amqp.Outgoing :=
  a.effects.filterMap fun
    | .publish m (.ok ()) => some m
    | _ => none

/-- The counters of the messages that were published. -/
def counters (a : Attempt) : List (Option Nat) :=
  a.published.map fun m => m.retryCount.map UInt32.toNat

end Attempt

/-- The attempt on an occurrence in a willing world. -/
def attempted (c : Config) (o : Amqp.Occurrence) (reply : Reply) : Attempt where
  occurrence := o
  effects := effects (willing reply) (process c o) ()
  outcome := ((process c o).run (willing reply) ()).1

variable {c : Config} {o : Amqp.Occurrence} {token : String} {n : Notification} {reply : Reply}

/-! ### One attempt -/

/-- An attempt that delivers the message acknowledges it. -/
theorem attempted_of_delivered {id : String} (h : Addressed c o.body token n)
    (hd : reply.delivered? c.deliveryTimeout = some id) :
    attempted c o reply =
      ⟨o, [.send token n reply, .settle .ack (.ok ())], .succeeded id⟩ := by
  simp only [attempted, effects_process, run_process, handle_of_addressed h, attempt_eq,
    effects_send, Dialogue.run_ask, willing, hd, proceed, effects_settleWith, run_settleWith,
    settled]

/-- An attempt that fails with retries left acknowledges the message and publishes its retry. -/
theorem attempted_of_failed (h : Addressed c o.body token n) (hf : Failed c reply)
    (hlt : o.retryCount < c.policy.maxRetries) :
    attempted c o reply =
      ⟨o, [.send token n reply, .settle .ack (.ok ()),
        .publish (retryOf c o (o.retryCount + 1)) (.ok ())], .retrying (o.retryCount + 1)⟩ := by
  simp only [attempted, effects_process, run_process, handle_of_addressed h, attempt_eq,
    effects_send, Dialogue.run_ask, willing, delivered?_eq_none_iff.2 hf, proceed, effects_count,
    afterFailure_of_lt hlt, retry, effects_settle, effects_republish, run_republish, republished]

/-- An attempt that fails without retries left rejects the message. -/
theorem attempted_of_exhausted (h : Addressed c o.body token n) (hf : Failed c reply)
    (hle : c.policy.maxRetries ≤ o.retryCount) :
    attempted c o reply =
      ⟨o, [.send token n reply, .settle .reject (.ok ())], .deadLettered .retriesExhausted⟩ := by
  simp only [attempted, effects_process, run_process, handle_of_addressed h, attempt_eq,
    effects_send, Dialogue.run_ask, willing, delivered?_eq_none_iff.2 hf, proceed, effects_count,
    afterFailure_of_le hle, deadLetter, effects_settleWith, run_settleWith, settled]

/-- An attempt on an unusable body rejects it. -/
theorem attempted_of_unusable {reason : DeadLetterReason} (h : Unusable c o.body reason) :
    attempted c o reply = ⟨o, [.settle .reject (.ok ())], .deadLettered reason⟩ := by
  simp only [attempted, effects_process, run_process, handle_of_unusable h, deadLetter,
    effects_settleWith, run_settleWith, willing, settled]

/-- The retry that an attempt published. -/
def Attempt.next? (a : Attempt) : Option Amqp.Outgoing := a.published.head?

/-- A retry is published only while the counter is below the greatest number of retries, and it is
the occurrence with the next counter. -/
theorem next?_attempted {m : Amqp.Outgoing} (h : (attempted c o reply).next? = some m) :
    o.retryCount < c.policy.maxRetries ∧ m = retryOf c o (o.retryCount + 1) := by
  rcases unusable_or_addressed c o.body with ⟨reason, hu⟩ | ⟨token, n, ha⟩
  · rw [attempted_of_unusable hu] at h
    cases h
  · cases hd : reply.delivered? c.deliveryTimeout with
    | some id =>
      rw [attempted_of_delivered ha hd] at h
      cases h
    | none =>
      have hf := delivered?_eq_none_iff.1 hd
      by_cases hlt : o.retryCount < c.policy.maxRetries
      · rw [attempted_of_failed ha hf hlt] at h
        exact ⟨hlt, (Option.some.inj h).symm⟩
      · rw [attempted_of_exhausted ha hf (UInt32.not_lt.1 hlt)] at h
        cases h

/-- The next occurrence of a message has the next counter. -/
theorem retryCount_retryOf (next : UInt32) :
    (retryOf c o next).occurrence.retryCount = next :=
  Amqp.Outgoing.occurrence_retryCount rfl

/-- A counter below another one can be raised by one. -/
theorem toNat_succ_of_lt {k m : UInt32} (h : k < m) : (k + 1).toNat = k.toNat + 1 := by
  have hk := UInt32.lt_iff_toNat_lt.1 h
  have hm := m.toNat_lt
  rw [UInt32.toNat_add, UInt32.toNat_one, Nat.mod_eq_of_lt (by omega)]

/-! ### The chain -/

/-- The replies of the provider, call by call, as far as they go. -/
abbrev Script := Nat → Option Reply

/-- The attempts on a message for a script of replies.  Every retry is handed out again; since it
has one retry less left, the chain ends even if the script does not. -/
def chain (c : Config) (o : Amqp.Occurrence) (script : Script) : List Attempt :=
  match script 0 with
  | none => []
  | some reply =>
    match h : (attempted c o reply).next? with
    | none => [attempted c o reply]
    | some m => attempted c o reply :: chain c m.occurrence fun k => script (k + 1)
termination_by c.policy.maxRetries.toNat - o.retryCount.toNat
decreasing_by
  obtain ⟨hlt, rfl⟩ := next?_attempted h
  rw [retryCount_retryOf, toNat_succ_of_lt hlt]
  have := UInt32.lt_iff_toNat_lt.1 hlt
  omega

variable {script : Script}

/-- A chain without a reply waits. -/
theorem chain_of_none (h : script 0 = none) : chain c o script = [] := by
  rw [chain]
  simp only [h]

/-- A chain ends with an attempt that publishes no retry. -/
theorem chain_of_last (h : script 0 = some reply) (hr : (attempted c o reply).next? = none) :
    chain c o script = [attempted c o reply] := by
  rw [chain]
  simp only [h]
  split
  · rfl
  · next m hm => rw [hr] at hm; cases hm

/-- A chain goes on with the retry that an attempt published. -/
theorem chain_of_retry {m : Amqp.Outgoing} (h : script 0 = some reply)
    (hr : (attempted c o reply).next? = some m) :
    chain c o script = attempted c o reply :: chain c m.occurrence fun k => script (k + 1) := by
  rw [chain]
  simp only [h]
  split
  · next hm => rw [hr] at hm; cases hm
  · next m' hm =>
    rw [hr] at hm
    cases hm
    rfl

/-- A call of the provider fails. -/
def Fails (c : Config) (script : Script) (k : Nat) : Prop :=
  ∃ reply, script k = some reply ∧ Failed c reply

/-- Attempts that failed with retries left: each of them was acknowledged once and published again
once, with counters that go up by one from `count`. -/
structure Retried (count : Nat) (as : List Attempt) : Prop where
  /-- One acknowledgement each. -/
  settlements : as.map Attempt.settlements = List.replicate as.length [.ack]
  /-- One retry each, with the next counter. -/
  counters : as.map Attempt.counters = (List.range' (count + 1) as.length).map fun k => [some k]
  /-- The outcome names the counter. -/
  outcomes : as.map Attempt.outcome =
    (List.range' (count + 1) as.length).map fun k => .retrying (UInt32.ofNat k)

theorem Retried.nil (count : Nat) : Retried count [] := ⟨rfl, rfl, rfl⟩

/-- One more failed attempt in front. -/
theorem Retried.cons {as : List Attempt} (h : Addressed c o.body token n) (hf : Failed c reply)
    (hlt : o.retryCount < c.policy.maxRetries) (has : Retried (o.retryCount.toNat + 1) as) :
    Retried o.retryCount.toNat (attempted c o reply :: as) := by
  have hsucc := toNat_succ_of_lt hlt
  rw [attempted_of_failed h hf hlt]
  refine ⟨?_, ?_, ?_⟩
  · rw [List.map_cons, has.settlements, List.length_cons, List.replicate_succ]
    rfl
  · rw [List.map_cons, has.counters, List.length_cons, List.range'_succ, List.map_cons, ← hsucc]
    rfl
  · rw [List.map_cons, has.outcomes, List.length_cons, List.range'_succ, List.map_cons, ← hsucc,
      UInt32.ofNat_toNat]

/-- A chain whose first `k` calls fail begins with `k` attempts that are tried again. -/
theorem chain_of_fails (k : Nat) {o : Amqp.Occurrence} {script : Script}
    (h : Addressed c o.body token n)
    (hk : k ≤ c.policy.maxRetries.toNat - o.retryCount.toNat) (hf : ∀ j < k, Fails c script j) :
    ∃ before o', chain c o script = before ++ chain c o' (fun j => script (j + k)) ∧
      before.length = k ∧ Retried o.retryCount.toNat before ∧
      o'.body = o.body ∧ o'.retryCount.toNat = o.retryCount.toNat + k := by
  -- the first attempt is tried again, and the rest is the chain of its retry, whose counter is one
  -- more and whose script is one call shorter
  induction k generalizing o script with
  | zero => exact ⟨[], o, rfl, rfl, .nil _, rfl, rfl⟩
  | succ k ih =>
    obtain ⟨reply, hreply, hfailed⟩ := hf 0 (Nat.succ_pos k)
    have hlt : o.retryCount < c.policy.maxRetries := UInt32.lt_iff_toNat_lt.2 (by omega)
    have hretry : (attempted c o reply).next? = some (retryOf c o (o.retryCount + 1)) := by
      rw [attempted_of_failed h hfailed hlt]
      rfl
    have hcount : (retryOf c o (o.retryCount + 1)).occurrence.retryCount.toNat =
        o.retryCount.toNat + 1 := by
      rw [retryCount_retryOf, toNat_succ_of_lt hlt]
    obtain ⟨before, o', heq, hlen, hret, hbody, hcount'⟩ :=
      @ih (retryOf c o (o.retryCount + 1)).occurrence (fun j => script (j + 1)) h (by omega)
        fun j hj => hf (j + 1) (by omega)
    rw [hcount] at hret hcount'
    refine ⟨attempted c o reply :: before, o', ?_, by rw [List.length_cons, hlen],
      .cons h hfailed hlt hret, hbody, by omega⟩
    rw [chain_of_retry hreply hretry, heq, List.cons_append]
    rfl

/-- There is at most one attempt more than there are retries left. -/
theorem chain_length_le (c : Config) (o : Amqp.Occurrence) (script : Script) :
    (chain c o script).length ≤ c.policy.maxRetries.toNat - o.retryCount.toNat + 1 := by
  induction o, script using chain.induct c with
  | case1 o script hnone => rw [chain_of_none hnone]; exact Nat.zero_le _
  | case2 o script reply hreply hlast =>
    rw [chain_of_last hreply hlast, List.length_singleton]
    omega
  | case3 o script reply hreply m hm ih =>
    rw [chain_of_retry hreply hm, List.length_cons]
    -- the measure by which the chain ends is the bound itself
    obtain ⟨hlt, rfl⟩ := next?_attempted hm
    rw [retryCount_retryOf, toNat_succ_of_lt hlt] at ih
    have := UInt32.lt_iff_toNat_lt.1 hlt
    omega

/-- An attempt publishes nothing but its retry. -/
theorem mem_published_attempted {m : Amqp.Outgoing} (h : m ∈ (attempted c o reply).published) :
    (attempted c o reply).next? = some m := by
  rcases unusable_or_addressed c o.body with ⟨reason, hu⟩ | ⟨token, n, ha⟩
  · rw [attempted_of_unusable hu] at h
    cases h
  · cases hd : reply.delivered? c.deliveryTimeout with
    | some id =>
      rw [attempted_of_delivered ha hd] at h
      cases h
    | none =>
      have hf := delivered?_eq_none_iff.1 hd
      by_cases hlt : o.retryCount < c.policy.maxRetries
      · rw [attempted_of_failed ha hf hlt] at h ⊢
        rw [List.mem_singleton.1 h]
        rfl
      · rw [attempted_of_exhausted ha hf (UInt32.not_lt.1 hlt)] at h
        cases h

/-- A retry carries a message on: its body, its type and its identity, kept on disk and sent to the
exchange of retries. -/
structure CarriesOn (c : Config) (o : Amqp.Occurrence) (m : Amqp.Outgoing) : Prop where
  body : m.body = o.body
  contentType : m.contentType = o.contentType
  correlationId : m.correlationId = o.correlationId
  persistent : m.persistent = true
  exchange : m.exchange = c.retryExchange
  routingKey : m.routingKey = c.retryRoutingKey

/-- Every retry of a chain carries the first occurrence on. -/
theorem carriesOn_of_mem_chain (c : Config) (o : Amqp.Occurrence) (script : Script) :
    ∀ a ∈ chain c o script, ∀ m ∈ a.published, CarriesOn c o m := by
  induction o, script using chain.induct c with
  | case1 o script hnone =>
    rw [chain_of_none hnone]
    intro a ha
    cases ha
  | case2 o script reply hreply hlast =>
    rw [chain_of_last hreply hlast]
    intro a ha m hm
    rw [List.mem_singleton.1 ha] at hm
    rw [mem_published_attempted hm] at hlast
    cases hlast
  | case3 o script reply hreply m hm ih =>
    rw [chain_of_retry hreply hm]
    obtain ⟨-, rfl⟩ := next?_attempted hm
    intro a ha m' hm'
    rcases List.mem_cons.1 ha with rfl | ha
    · obtain ⟨-, rfl⟩ := next?_attempted (mem_published_attempted hm')
      exact ⟨rfl, rfl, rfl, rfl, rfl, rfl⟩
    · -- what a retry carries on of its occurrence, the occurrence carried on of the first one
      obtain ⟨h1, h2, h3, h4, h5, h6⟩ := ih a ha m' hm'
      exact ⟨h1, h2, h3, h4, h5, h6⟩

/-- After `k` attempts that are tried again, a chain ends with one that is settled and ends as given
and publishes nothing. -/
def EndsWith (c : Config) (o : Amqp.Occurrence) (script : Script) (k : Nat)
    (settlement : Amqp.Settlement) (outcome : Outcome) : Prop :=
  ∃ before last, chain c o script = before ++ [last] ∧ before.length = k ∧
    Retried o.retryCount.toNat before ∧ last.settlements = [settlement] ∧ last.published = [] ∧
    last.outcome = outcome

/-- The first call that delivers the message ends the chain with a success. -/
theorem endsWith_succeeded {k : Nat} {id : String} (h : Addressed c o.body token n)
    (hk : k ≤ c.policy.maxRetries.toNat - o.retryCount.toNat) (hf : ∀ j < k, Fails c script j)
    (hreply : script k = some reply) (hid : reply.delivered? c.deliveryTimeout = some id) :
    EndsWith c o script k .ack (.succeeded id) := by
  obtain ⟨before, o', heq, hlen, hret, hbody, -⟩ := chain_of_fails k h hk hf
  have hlast := attempted_of_delivered (hbody ▸ h : Addressed c o'.body token n) hid
  have hend : chain c o' (fun j => script (j + k)) = [attempted c o' reply] :=
    chain_of_last (by simpa using hreply) (by rw [hlast]; rfl)
  rw [hend, hlast] at heq
  exact ⟨before, _, heq, hlen, hret, rfl, rfl, rfl⟩

/-- If every call fails, the chain uses all retries and gives the message up. -/
theorem endsWith_exhausted (h : Addressed c o.body token n)
    (hf : ∀ j ≤ c.policy.maxRetries.toNat - o.retryCount.toNat, Fails c script j) :
    EndsWith c o script (c.policy.maxRetries.toNat - o.retryCount.toNat) .reject
      (.deadLettered .retriesExhausted) := by
  obtain ⟨before, o', heq, hlen, hret, hbody, hcount⟩ :=
    chain_of_fails _ h (Nat.le_refl _) fun j hj => hf j (Nat.le_of_lt hj)
  -- the last call finds the counter at its limit
  obtain ⟨reply, hreply, hfailed⟩ := hf _ (Nat.le_refl _)
  have hle : c.policy.maxRetries ≤ o'.retryCount := UInt32.le_iff_toNat_le.2 (by omega)
  have hlast := attempted_of_exhausted (hbody ▸ h : Addressed c o'.body token n) hfailed hle
  have hend : chain c o' (fun j => script (j + (c.policy.maxRetries.toNat - o.retryCount.toNat))) =
      [attempted c o' reply] :=
    chain_of_last (by simpa using hreply) (by rw [hlast]; rfl)
  rw [hend, hlast] at heq
  exact ⟨before, _, heq, hlen, hret, rfl, rfl, rfl⟩

/-- If the script ends before that, every attempt so far is tried again. -/
theorem retried_of_none {k : Nat} (h : Addressed c o.body token n)
    (hk : k ≤ c.policy.maxRetries.toNat - o.retryCount.toNat) (hf : ∀ j < k, Fails c script j)
    (hnone : script k = none) :
    (chain c o script).length = k ∧ Retried o.retryCount.toNat (chain c o script) := by
  obtain ⟨before, o', heq, hlen, hret, -, -⟩ := chain_of_fails k h hk hf
  have hend : chain c o' (fun j => script (j + k)) = [] := chain_of_none (by simpa using hnone)
  rw [heq, hend, List.append_nil]
  exact ⟨hlen, hret⟩

/-- What is exact about a chain with `left` retries left. -/
structure Exact (c : Config) (o : Amqp.Occurrence) (script : Script) (left : Nat) : Prop where
  /-- There is at most one attempt more than there are retries left. -/
  bounded : (chain c o script).length ≤ left + 1
  /-- If call `k`, counted from zero, is the first that delivers the message, then `k` attempts are
  tried again and the next one is the last. -/
  succeeded : ∀ k reply id, k ≤ left → (∀ j < k, Fails c script j) → script k = some reply →
    reply.delivered? c.deliveryTimeout = some id → EndsWith c o script k .ack (.succeeded id)
  /-- If every call fails, all retries are used. -/
  exhausted : (∀ j ≤ left, Fails c script j) →
    EndsWith c o script left .reject (.deadLettered .retriesExhausted)
  /-- If the script ends before that, every attempt so far is tried again. -/
  waiting : ∀ k ≤ left, (∀ j < k, Fails c script j) → script k = none →
    (chain c o script).length = k ∧ Retried o.retryCount.toNat (chain c o script)
  /-- Every retry carries the message on. -/
  carriesOn : ∀ a ∈ chain c o script, ∀ m ∈ a.published, CarriesOn c o m

/-- **A chain of retries is bounded and exact**, for every script of replies and every table of
headers that the first occurrence comes with. -/
theorem chain_exact {c : Config} {body : Bytes} {token : String} {n : Notification}
    (h : Addressed c body token n) (headers : Option Amqp.Table)
    (contentType correlationId : Option String) (script : Script) :
    Exact c ⟨body, contentType, correlationId, Amqp.retryCount headers⟩ script
      (c.policy.maxRetries.toNat - (Amqp.retryCount headers).toNat) where
  bounded := chain_length_le c _ script
  succeeded _ _ _ hk hf hreply hid := endsWith_succeeded h hk hf hreply hid
  exhausted hf := endsWith_exhausted h hf
  waiting _ hk hf hnone := retried_of_none h hk hf hnone
  carriesOn := carriesOn_of_mem_chain c _ script

/-- A configuration with three retries and a limit of one second. -/
def threeRetries : Config where
  policy := ⟨3⟩
  retryExchange := "retry"
  retryRoutingKey := "again"
  defaultToken := some "device"
  deliveryTimeout := .ofMillis 1000

/-- The body of a notification that names no device. -/
def briefBody : Bytes :=
  Utf8.ofString "\x7b\"notification_type\":\"push\",\"request_id\":\"r\"\x7d"

/-- The notification of that body. -/
def briefNotification : Notification where
  medium := .push
  token := none
  userId := none
  templateCode := ""
  values := .none
  requestId := "r"
  priority := 0
  metadata := .empty

/-- A refusal, an answer that comes too late, and a delivery; then nothing more. -/
def thirdTime : Script
  | 0 => some ⟨0, .error (.rejected 503 "")⟩
  | 1 => some ⟨1001, .ok "late"⟩
  | 2 => some ⟨1000, .ok "sent"⟩
  | _ => none

theorem briefBody_addressed : Addressed threeRetries briefBody "device" briefNotification :=
  ⟨by rfl, rfl, by rfl⟩

/-- With one of three retries used, the third call delivers the message just in time. -/
theorem chain_exact_thirdTime :
    Addressed threeRetries briefBody "device" briefNotification ∧
    EndsWith threeRetries ⟨briefBody, none, some "r", Amqp.retryCount (some (Amqp.retryHeaders 1))⟩
      thirdTime 2 .ack (.succeeded "sent") := by
  refine ⟨briefBody_addressed, ?_⟩
  have hexact :=
    chain_exact briefBody_addressed (some (Amqp.retryHeaders 1)) none (some "r") thirdTime
  refine hexact.succeeded 2 _ "sent" (by decide) (fun j hj => ?_) rfl (by decide)
  match j with
  | 0 => exact ⟨_, rfl, .inr ⟨_, rfl⟩⟩
  | 1 => exact ⟨_, rfl, .inl (by decide)⟩

end Processing

end Courier
