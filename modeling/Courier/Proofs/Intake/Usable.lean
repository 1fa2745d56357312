import Courier.Proofs.Intake.Handling
import Courier.Proofs.Processing.Course

/-!
# What is taken in can be used

The intake and the workers never meet, but what the one takes in the others can use: they read the
notification back, and they call the provider for the very token that was validated, because a valid
token is not empty and has no white space that could be trimmed.

* `validateToken_ok` : what a valid token is for the workers.
* `Intake.WellUsed` : how a worker is to use a notification.
* `Intake.wellUsed` : every worker uses a valid notification like this, if it can read it.
* `Intake.usable_of_accepted` : **what the intake takes in, the workers can use.**
-/

namespace Courier

theorem validateToken_ok {token : String} (h : validateToken token = .ok ()) :
    token ≠ "" ∧ Text.trim token = token := by
  unfold validateToken at h
  split at h
  · cases h
  · next hempty =>
    split at h
    · cases h
    · split at h
      · cases h
      · next hchars =>
        refine ⟨fun heq => hempty (heq ▸ rfl), Text.trim_eq_self fun c hc => ?_⟩
        rw [Bool.not_eq_true, List.any_eq_false] at hchars
        have hc := hchars c hc
        rw [Bool.or_eq_true, not_or, Bool.not_eq_true] at hc
        exact hc.1

namespace Notification

variable {n : Notification}

theorem recipient?_of_token {token : String} (hn : n.validate = .ok ())
    (htoken : n.token = some token) (default : Option String) :
    n.recipient? default = some token := by
  have hvalid : validateToken token = .ok () := by
    unfold validate at hn
    split at hn
    · cases hn
    · simpa only [htoken] using hn
  obtain ⟨hne, htrim⟩ := validateToken_ok hvalid
  simp only [recipient?, htoken, htrim]
  rw [if_neg]
  simpa using hne

theorem recipient?_of_none (htoken : n.token = none) (default : Option String) :
    n.recipient? default = default := by
  simp only [recipient?, htoken]

end Notification

namespace Processing

variable {c : Config} {o : Amqp.Occurrence} {es : List Effect} {outcome : Outcome}
  {n : Notification} {token : String}

/-- The calls of the provider. -/
def calls (es : List Effect) : List (String × Notification) :=
  es.filterMap fun
    | .send token n _ => some (token, n)
    | _ => none

/-- The effects begin with a call of the provider, and there is no other one. -/
def Calls (token : String) (n : Notification) (es : List Effect) : Prop :=
  ∃ reply rest, es = .send token n reply :: rest ∧ calls rest = []

theorem Addressed.unique {body : Bytes} {token' : String} {n' : Notification}
    (h : Addressed c body token n) (h' : Addressed c body token' n') : token' = token ∧ n' = n := by
  cases h.decoded.symm.trans h'.decoded
  cases h.recipient.symm.trans h'.recipient
  exact ⟨rfl, rfl⟩

theorem Unusable.not_addressed {body : Bytes} {reason : DeadLetterReason}
    (h : Unusable c body reason) : ¬ Addressed c body token n := by
  intro h'
  cases h with
  | malformed hd => cases hd.symm.trans h'.decoded
  | unsupported hd hm =>
    cases hd.symm.trans h'.decoded
    exact hm h'.push
  | missing hd _ hr =>
    cases hd.symm.trans h'.decoded
    cases hr.symm.trans h'.recipient

theorem Course.calls (h : Course c o es outcome) (ha : Addressed c o.body token n) :
    Calls token n es := by
  cases h with
  | refused _ hu => exact absurd ha hu.not_addressed
  | delivered _ ha' | unacknowledged _ ha' | exhausted _ ha' | retried _ ha' =>
    obtain ⟨rfl, rfl⟩ := ha.unique ha'
    exact ⟨_, _, rfl, rfl⟩

theorem Course.not_malformed (h : Course c o es outcome)
    (hd : Notification.decode? o.body = some n) : outcome ≠ .deadLettered .malformedPayload := by
  cases h with
  | refused result hu =>
    cases hu with
    | malformed hd' => cases hd.symm.trans hd'
    | unsupported => cases result <;> exact nofun
    | missing => cases result <;> exact nofun
  | delivered result | exhausted result | retried result => cases result <;> exact nofun
  | unacknowledged => exact nofun

variable {σ : Type} (world : (a : Action) → σ → a.Answer × σ)

theorem effects_process_of_unusable {reason : DeadLetterReason} (h : Unusable c o.body reason)
    (s : σ) : ∃ result, effects world (process c o) s = [.settle .reject result] ∧
      ((process c o).run world s).1 = settled result (.deadLettered reason) := by
  rw [effects_process, run_process, handle_of_unusable h, deadLetter, effects_settleWith,
    run_settleWith]
  exact ⟨_, rfl, rfl⟩

theorem course_process (c : Config) (o : Amqp.Occurrence) (s : σ) :
    Course c o (effects world (process c o) s) ((process c o).run world s).1 := by
  rw [effects_process, run_process]
  rcases unusable_or_addressed c o.body with ⟨reason, h⟩ | ⟨token, n, h⟩
  · exact course_of_unusable h _
  · exact course_of_addressed h _

end Processing

namespace Intake

open Processing (Effect effects process settled calls Calls)

/-- How a worker is to use a notification: by its effects and its outcome. -/
structure WellUsed (c : Config) (n : Notification) (es : List Effect) (outcome : Outcome) :
    Prop where
  /-- It can read the notification. -/
  readable : outcome ≠ .deadLettered .malformedPayload
  /-- A push notification with a token goes to this token. -/
  own : n.medium = .push → ∀ token, n.token = some token → Calls token n es
  /-- One without a token goes to the configured one, if that is not blank. -/
  default : n.medium = .push → n.token = none → ∀ token, c.defaultPushToken = some token →
    Text.isAllBlank token = false → Calls token n es
  /-- Otherwise it is given up. -/
  missing : n.medium = .push → n.token = none →
    (∀ token, c.defaultPushToken = some token → Text.isAllBlank token = true) →
    ∃ result, es = [.settle .reject result] ∧
      outcome = settled result (.deadLettered .missingRecipient)
  /-- The provider is not called for any other notification. -/
  email : n.medium = .email → calls es = []

theorem defaultToken_of_some {c : Config} {token : String} (h : c.defaultPushToken = some token)
    (hblank : Text.isAllBlank token = false) : c.processing.defaultToken = some token := by
  simp [Config.processing, h, hblank]

theorem defaultToken_of_blank {c : Config}
    (h : ∀ token, c.defaultPushToken = some token → Text.isAllBlank token = true) :
    c.processing.defaultToken = none := by
  cases hdefault : c.defaultPushToken with
  | none => simp [Config.processing, hdefault]
  | some token => simp [Config.processing, hdefault, h token hdefault]

/-- Every worker uses a valid notification well that it can read. -/
theorem wellUsed {o : Amqp.Occurrence} {n : Notification}
    (hd : Notification.decode? o.body = some n) (hn : n.validate = .ok ()) (c : Config)
    {σ : Type} (world : (a : Processing.Action) → σ → a.Answer × σ) (s : σ) :
    WellUsed c n (effects world (process c.processing o) s)
      ((process c.processing o).run world s).1 where
  readable := (Processing.course_process world c.processing o s).not_malformed hd
  own hpush token htoken := by
    have haddressed : Processing.Addressed c.processing o.body token n :=
      ⟨hd, hpush, Notification.recipient?_of_token hn htoken _⟩
    exact (Processing.course_process world c.processing o s).calls haddressed
  default hpush htoken token hdefault hblank := by
    have haddressed : Processing.Addressed c.processing o.body token n := by
      refine ⟨hd, hpush, ?_⟩
      rw [Notification.recipient?_of_none htoken, defaultToken_of_some hdefault hblank]
    exact (Processing.course_process world c.processing o s).calls haddressed
  missing hpush htoken hblank := by
    have hunusable : Processing.Unusable c.processing o.body .missingRecipient := by
      refine .missing hd hpush ?_
      rw [Notification.recipient?_of_none htoken, defaultToken_of_blank hblank]
    exact Processing.effects_process_of_unusable world hunusable s
  email hemail := by
    have hunusable : Processing.Unusable c.processing o.body .unsupportedType := by
      refine .unsupported hd ?_
      rw [hemail]
      exact nofun
    obtain ⟨result, heffects, -⟩ := Processing.effects_process_of_unusable world hunusable s
    rw [heffects]
    rfl

/-! ### From the one end to the other -/

variable {c : Publishing.Config} {health : Health.Report} {r : Request} {i : Nat}
  {j j' : Publishing.Journal} {a : Response} {events : List Metrics.Event}

/-- Only the handling of a notification is answered with 202. -/
theorem held_queue_of_accepted (held : Held i (respond c health r) j a events j')
    (haccepted : a.status = 202) : Held i (queue c r) j a events j' := by
  unfold respond at held
  split at held
  · split at held
    · exact held
    · -- another method
      cases held
      cases haccepted
  · split at held
    · split at held
      · cases held
        cases hstatus : health.status <;>
          simp [reportHealth, Response.ofContent, statusOf, hstatus] at haccepted
      · split at held
        · cases held
          cases hstatus : health.status <;>
            simp [reportHealth, Response.ofContent, statusOf, hstatus] at haccepted
        · cases held
          cases haccepted
    · -- another path
      cases held
      cases haccepted

theorem Handled.of_accepted (h : Handled c r i j a events) (haccepted : a.status = 202) :
    ∃ n, Valid r n ∧ handedFor i j = [⟨i, Publishing.messageOf c n⟩] := by
  cases h with
  | invalid => cases haccepted
  | submitted n receipt some informed =>
    cases receipt with
    | confirmed => exact ⟨n, read?_eq_some_iff.1 some, informed.handed_eq⟩
    | refused e => cases haccepted
    | unanswered => cases haccepted

/-- Whoever processes a body, it uses the notification well. -/
def Usable (n : Notification) (body : Bytes) : Prop :=
  ∀ (c : Config) (o : Amqp.Occurrence), o.body = body →
    ∀ {σ : Type} (world : (a : Processing.Action) → σ → a.Answer × σ) (s : σ),
      WellUsed c n (effects world (process c.processing o) s)
        ((process c.processing o).run world s).1

/-- **What the intake takes in, the workers can use**: whenever a request is answered with 202, the
channel was given the message of one valid notification, and every worker, however it is configured
and whatever its partners answer, reads this notification back and calls the provider for its very
token, since a valid token is not empty and keeps all its characters when it is trimmed. -/
theorem usable_of_accepted (before : Publishing.Journal.Around i (.start c) j)
    (held : Held i (respond c health r) j a events j') (haccepted : a.status = 202) :
    (∃ n m, Valid r n ∧ handedFor i j' = [⟨i, m⟩] ∧
      ((∀ x ∈ n.doubles, x.ReadsBack) → Usable n m.body)) ∧
    ∀ token, validateToken token = .ok () → token ≠ "" ∧ Text.trim token = token := by
  have hk := (Publishing.Journal.Knows.start c).around before
  have hhandled := held_queue (held_queue_of_accepted held haccepted) hk
  obtain ⟨n, hvalid, hhanded⟩ := hhandled.of_accepted haccepted
  refine ⟨⟨n, _, hvalid, hhanded, fun hdoubles c o hbody σ world s => ?_⟩,
    fun _ => validateToken_ok⟩
  refine wellUsed ?_ hvalid.valid c world s
  rw [hbody]
  exact Notification.decode?_encode hdoubles

/-- The notification of `parcelRequest`. -/
def parcel : Notification where
  medium := .push
  token := some "abc"
  userId := none
  templateCode := ""
  values := .none
  requestId := "😀"
  priority := 0
  metadata := ⟨[("x", .number (.double Publishing.tenth))], by decide⟩

/-- A new publisher takes it in, and the workers can use it. -/
theorem usable_of_accepted_parcel : ∃ a events j' m,
    Held 0 (respond (Config.standard "amqp://localhost").publishing (Health.check true .zero)
      parcelRequest) (.start (Config.standard "amqp://localhost").publishing) a events j' ∧
    a.status = 202 ∧ handedFor 0 j' = [⟨0, m⟩] ∧ Usable parcel m.body := by
  have hread : read? parcelRequest = some parcel := by decide +kernel
  have hvalid := read?_eq_some_iff.1 hread
  have hk := Publishing.Journal.Knows.start (i := 0) (Config.standard "amqp://localhost").publishing
  obtain ⟨a, events, j', held, hanswered⟩ :=
    exists_held_queue hk rfl rfl (Config.standard "amqp://localhost").publishing parcelRequest
      (.ok ())
  have haccepted : a.status = 202 :=
    (held_queue held hk).truthful.accepted.2 ⟨parcel, hvalid, hanswered parcel hvalid⟩
  rw [← respond_post _ (Health.check true .zero) rfl (by decide +kernel)] at held
  obtain ⟨⟨n, m, hn, hhanded, husable⟩, -⟩ := usable_of_accepted (.refl _) held haccepted
  cases hread.symm.trans (read?_eq_some_iff.2 hn)
  exact ⟨a, events, j', m, held, haccepted, hhanded, husable (by decide +kernel)⟩

end Intake

end Courier
