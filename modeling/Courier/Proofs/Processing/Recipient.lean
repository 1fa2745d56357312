import Courier.Config.Basic
import Courier.Proofs.Intake.Usable

/-!
# The recipient of a delivery

A token may be blank on the request as well as in the configuration, and the two are looked at in
different places: the one of the request is trimmed and then has to be something, the configured one
counts as it is unless it is blank.  Together they see to it that nothing is ever sent to a blank
token.

* `Text.Trims` : a text without the white space around it.
* `Processing.Missing` : a token that is not there, or blank.
* `Processing.Recipient` : the token that a notification goes to.
* `Processing.Course.addressed` : whoever is sent a notification is its recipient.
* `Processing.never_to_blank` : **nothing is sent to a blank token**, and a push notification is given
  up for the want of a recipient exactly if both tokens are missing.
-/

namespace Courier

/-! ### Trimmed texts -/

namespace Text

/-- A text without the white space at both ends of another one. -/
structure Trims (s t : String) : Prop where
  /-- What is left out is white space in front and at the end. -/
  around : ∃ front back, s.toList = front ++ t.toList ++ back ∧ ∀ c ∈ front ++ back, isBlank c
  /-- There is no more of it in front. -/
  first : ∀ c, t.toList.head? = some c → isBlank c = false
  /-- There is no more of it at the end. -/
  last : ∀ c, t.toList.getLast? = some c → isBlank c = false

theorem head?_dropWhile_isBlank {cs : List Char} {c : Char}
    (h : (cs.dropWhile isBlank).head? = some c) : isBlank c = false := by
  have hhead := List.head?_dropWhile_not isBlank cs
  rw [h] at hhead
  exact hhead

theorem trims_trim (s : String) : Trims s (trim s) := by
  have htrim : (trim s).toList = dropRightWhile isBlank (s.toList.dropWhile isBlank) :=
    String.toList_ofList
  obtain ⟨back, hback, hblank⟩ : ∃ back, (trim s).toList ++ back = s.toList.dropWhile isBlank ∧
      ∀ c ∈ back, isBlank c := by
    refine ⟨_, htrim ▸ dropRightWhile_append_takeWhile isBlank _, fun c hc => ?_⟩
    exact List.all_eq_true.1 List.all_takeWhile c (List.mem_reverse.1 hc)
  refine ⟨⟨s.toList.takeWhile isBlank, back, ?_, ?_⟩, fun c hc => ?_, fun c hc => ?_⟩
  · rw [List.append_assoc, hback, List.takeWhile_append_dropWhile]
  · exact List.forall_mem_append.2 ⟨List.all_eq_true.1 List.all_takeWhile, hblank⟩
  · -- what is first after trimming at the end was first before it
    have hfirst : (s.toList.dropWhile isBlank).head? = some c := by
      rw [← hback, List.head?_append, hc, Option.some_or]
    exact head?_dropWhile_isBlank hfirst
  · rw [htrim, dropRightWhile, List.getLast?_reverse] at hc
    exact head?_dropWhile_isBlank hc

variable {s t : String}

/-- Nothing is left exactly of a text that is all white space. -/
theorem Trims.eq_empty_iff (h : Trims s t) : t = "" ↔ isAllBlank s = true := by
  obtain ⟨front, back, hs, hblank⟩ := h.around
  rw [List.forall_mem_append] at hblank
  constructor
  · rintro rfl
    rw [isAllBlank, hs, List.all_eq_true]
    simpa [or_imp, forall_and] using hblank
  · intro hall
    rw [isAllBlank, List.all_eq_true] at hall
    cases ht : t.toList with
    | nil => exact String.toList_eq_nil_iff.1 ht
    | cons c cs =>
      have hc := h.first c (by rw [ht, List.head?_cons])
      rw [hall c (by simp [hs, ht])] at hc
      cases hc

theorem exists_of_not_isAllBlank (h : isAllBlank s = false) : ∃ c ∈ s.toList, isBlank c = false := by
  simpa [isAllBlank] using h

end Text

namespace Processing

variable {c : Config} {o : Amqp.Occurrence} {es : List Effect} {outcome : Outcome}
  {n : Notification} {token : String}

/-- Whoever is sent a notification, the body of the message is meant for that token. -/
theorem Course.addressed {reply : Reply} (h : Course c o es outcome)
    (hsend : .send token n reply ∈ es) : Addressed c o.body token n := by
  cases h with
  | refused => simp at hsend
  | delivered _ ha | unacknowledged _ ha | exhausted _ ha | retried _ ha =>
    obtain ⟨rfl, rfl, -⟩ : token = _ ∧ n = _ ∧ reply = _ := by simpa using hsend
    exact ha

/-- A token that is not there, or is all white space. -/
def Missing (token : Option String) : Prop := ∀ s, token = some s → Text.isAllBlank s = true

/-- The token that a notification goes to: its own one without the white space around it, if
anything is left of it, and otherwise the configured one as it is. -/
inductive Recipient (c : Courier.Config) (n : Notification) : String → Prop where
  | own {s token : String} (named : n.token = some s) (trims : Text.Trims s token)
    (left : token ≠ "") : Recipient c n token
  | default {token : String} (missing : Missing n.token)
    (configured : c.defaultPushToken = some token) : Recipient c n token

/-- The token of a request counts if something is left of it. -/
theorem recipient?_cases (n : Notification) (default : Option String) :
    (∃ s, n.token = some s ∧ Text.trim s ≠ "" ∧ n.recipient? default = some (Text.trim s)) ∨
      Missing n.token ∧ n.recipient? default = default := by
  cases htoken : n.token with
  | none => exact .inr ⟨nofun, Notification.recipient?_of_none htoken default⟩
  | some s =>
    by_cases hleft : Text.trim s = ""
    · refine .inr ⟨?_, by simp [Notification.recipient?, htoken, hleft]⟩
      rintro _ ⟨⟩
      exact (Text.trims_trim s).eq_empty_iff.1 hleft
    · exact .inl ⟨s, rfl, hleft, by simp [Notification.recipient?, htoken, hleft]⟩

/-- A blank default is none. -/
theorem defaultToken_eq_none_iff {c : Courier.Config} :
    c.processing.defaultToken = none ↔ Missing c.defaultPushToken := by
  simp [Config.processing, Missing]

theorem recipient?_eq_none_iff {c : Courier.Config} :
    n.recipient? c.processing.defaultToken = none ↔
      Missing n.token ∧ Missing c.defaultPushToken := by
  rw [← defaultToken_eq_none_iff]
  rcases recipient?_cases n c.processing.defaultToken with ⟨s, hs, hleft, hrecipient⟩ |
    ⟨hmissing, hrecipient⟩
  · refine iff_of_false (hrecipient ▸ nofun) fun hnone => ?_
    exact hleft ((Text.trims_trim s).eq_empty_iff.2 (hnone.1 s hs))
  · rw [hrecipient]
    exact (and_iff_right hmissing).symm

/-- The recipient is one of the two tokens, and not blank. -/
theorem recipient_of_recipient? {c : Courier.Config}
    (h : n.recipient? c.processing.defaultToken = some token) :
    Recipient c n token ∧ ∃ ch ∈ token.toList, Text.isBlank ch = false := by
  rcases recipient?_cases n c.processing.defaultToken with ⟨s, hs, hleft, hrecipient⟩ |
    ⟨hmissing, hrecipient⟩
  · obtain rfl : Text.trim s = token := Option.some.inj (hrecipient.symm.trans h)
    have htrims := Text.trims_trim s
    refine ⟨.own hs htrims hleft, ?_⟩
    cases hchars : (Text.trim s).toList with
    | nil => exact absurd (String.toList_eq_nil_iff.1 hchars) hleft
    | cons ch chars =>
      exact ⟨ch, List.mem_cons_self, htrims.first ch (by rw [hchars, List.head?_cons])⟩
  · obtain ⟨hconfigured, hblank⟩ := Option.filter_eq_some_iff.1 (hrecipient.symm.trans h)
    rw [Bool.not_eq_true'] at hblank
    exact ⟨.default hmissing hconfigured, Text.exists_of_not_isAllBlank hblank⟩

/-! ### What a worker does -/

/-- How the recipient of an occurrence decides on what happens to it. -/
structure Addressing (c : Courier.Config) (o : Amqp.Occurrence) (es : List Effect)
    (outcome : Outcome) : Prop where
  /-- Only push notifications are sent, and to their recipient, which is not all white space. -/
  sent : ∀ token n reply, .send token n reply ∈ es → Notification.decode? o.body = some n ∧
    n.medium = .push ∧ Recipient c n token ∧ ∃ ch ∈ token.toList, Text.isBlank ch = false
  /-- A push notification is rejected for the want of a recipient, and nothing else happens to it,
  exactly if both tokens are missing. -/
  missing : ∀ n, Notification.decode? o.body = some n → n.medium = .push →
    ((∃ result, es = [.settle .reject result] ∧
      outcome = settled result (.deadLettered .missingRecipient)) ↔
        Missing n.token ∧ Missing c.defaultPushToken)

/-- **Nothing is ever sent to a blank token**, whatever the configuration is and whatever the
partners of a worker answer. -/
theorem never_to_blank (c : Courier.Config) (o : Amqp.Occurrence) {σ : Type}
    (world : (a : Action) → σ → a.Answer × σ) (s : σ) :
    Addressing c o (effects world (process c.processing o) s)
      ((process c.processing o).run world s).1 := by
  have hcourse := course_process world c.processing o s
  refine ⟨fun token n reply hsend => ?_, fun n hdecoded hpush => ?_⟩
  · have haddressed := hcourse.addressed hsend
    exact ⟨haddressed.decoded, haddressed.push, recipient_of_recipient? haddressed.recipient⟩
  · rw [← recipient?_eq_none_iff]
    constructor
    · rintro ⟨result, heffects, -⟩
      cases hrecipient : n.recipient? c.processing.defaultToken with
      | none => rfl
      | some token =>
        -- it would have been sent to its recipient first
        obtain ⟨reply, rest, hcalls, -⟩ := hcourse.calls ⟨hdecoded, hpush, hrecipient⟩
        cases heffects.symm.trans hcalls
    · intro hrecipient
      exact effects_process_of_unusable world (.missing hdecoded hpush hrecipient) s

end Processing

end Courier
