import Courier.Proofs.Pipeline.Census

/-!
# The workers of the pipeline

A worker that handles a delivery is somewhere in the task of its occurrence, and the occurrence
carries the accepted notification whose number the delivery has.

* `Pipeline.Progress` : how far a worker can be in its task.
* `Pipeline.Turn` : **what one question of a worker does** to its task and to the world.
* `Pipeline.turn_of_reacts` : there is nothing else that a question can do.
* `Pipeline.Manned` : a worker is where it can be.
-/

namespace Courier

namespace Pipeline

/-- An occurrence carries a notification: the body is the notification, and it goes by the identity
of its request. -/
structure Carries (n : Notification) (o : Amqp.Occurrence) : Prop where
  body : o.body = n.encode
  contentType : o.contentType = some Publishing.jsonContentType
  correlationId : o.correlationId = some n.requestId

theorem carries_messageOf (c : Publishing.Config) (n : Notification) :
    Carries n (Publishing.messageOf c n).occurrence := ⟨rfl, rfl, rfl⟩

/-- A retry carries what its occurrence carried. -/
theorem Carries.retryOf {n : Notification} {o : Amqp.Occurrence} (h : Carries n o)
    (c : Processing.Config) (next : UInt32) : Carries n (Processing.retryOf c o next).occurrence :=
  ⟨h.body, h.contentType, h.correlationId⟩

/-- An occurrence carries the accepted notification with a number. -/
def World.Genuine (w : World) (id : Nat) (o : Amqp.Occurrence) : Prop :=
  ∃ n, w.accepted[id]? = some n ∧ Carries n o

/-- If an outcome says that a message was delivered, the provider said so in time. -/
def World.Vouched (w : World) (c : Config) (id : Nat) (outcome : Outcome) : Prop :=
  ∀ receipt, outcome = .succeeded receipt → ∃ reply, (id, reply) ∈ w.replies ∧
    reply.delivered? c.processing.deliveryTimeout = some receipt

/-- How far a worker can be in the task of an occurrence under a tag. -/
inductive Progress (c : Config) (w : World) (i : Nat) (tag : UInt64) (o : Amqp.Occurrence) :
    Processing.Task → Prop where
  /-- It has not settled the delivery, which is that of the message it serves, and what it heard was
  replied to that message. -/
  | unsettled {heard : List Processing.Reply} {task : Processing.Task}
      (h : Processing.Unsettled c.processing o heard task)
      (replied : ∀ reply ∈ heard, (w.serving i, reply) ∈ w.replies)
      (tracked : ∀ h ∈ w.held, h.worker = i → h.tag = tag → h.copy.id = w.serving i) :
    Progress c w i tag o task
  /-- It is about to publish the retry. -/
  | republishing (next : UInt32) :
    Progress c w i tag o (.ask (.publish (Processing.retryOf c.processing o next)) fun result =>
      Processing.report (Processing.republished result next))
  /-- It is about to report the outcome. -/
  | reporting (outcome : Outcome) (vouched : w.Vouched c (w.serving i) outcome) :
    Progress c w i tag o (.ask (.count (.outcome outcome)) fun _ => .done outcome)
  | finished (outcome : Outcome) : Progress c w i tag o (.done outcome)

/-- A worker is where it can be. -/
def Manned (c : Config) (w : World) (i : Nat) : Worker.Phase → Prop
  | .handling tag task => ∃ o, w.Genuine (w.serving i) o ∧ Progress c w i tag o task
  | .idle => True
  | .retiring _ => True
  | .gone => True
  | .crashed => True

variable {c : Config} {w w' : World} {i : Nat} {tag : UInt64} {o : Amqp.Occurrence}
  {task : Processing.Task}

/-- An accepted notification keeps its number. -/
theorem World.Genuine.mono {id : Nat} (h : w.Genuine id o) (ha : w.accepted <+: w'.accepted) :
    w'.Genuine id o := by
  obtain ⟨n, hget, hcarries⟩ := h
  obtain ⟨later, hlater⟩ := ha
  refine ⟨n, ?_, hcarries⟩
  rw [← hlater, List.getElem?_append_left (List.getElem?_eq_some_iff.1 hget).1, hget]

/-- What the provider said stays said. -/
theorem World.Vouched.mono {id : Nat} {outcome : Outcome} (h : w.Vouched c id outcome)
    (hreplies : w.replies ⊆ w'.replies) : w'.Vouched c id outcome := fun receipt hreceipt => by
  obtain ⟨reply, hmem, hdelivered⟩ := h receipt hreceipt
  exact ⟨reply, hreplies hmem, hdelivered⟩

/-- Nothing has to be said for an outcome other than a delivery. -/
theorem World.vouched_of_ne {id : Nat} {outcome : Outcome}
    (h : ∀ receipt, outcome ≠ .succeeded receipt) : w.Vouched c id outcome :=
  fun receipt hreceipt => absurd hreceipt (h receipt)

/-- A worker stays where it is while the world changes around it. -/
theorem Manned.mono {phase : Worker.Phase} (h : Manned c w i phase)
    (haccepted : w.accepted <+: w'.accepted) (hserving : w'.serving i = w.serving i)
    (hreplies : w.replies ⊆ w'.replies) (hheld : ∀ h ∈ w'.held, h.worker = i → h ∈ w.held) :
    Manned c w' i phase := by
  cases phase with
  | handling tag task =>
    obtain ⟨o, hgenuine, hprogress⟩ := h
    refine ⟨o, hserving ▸ hgenuine.mono haccepted, ?_⟩
    cases hprogress with
    | unsettled htask replied tracked =>
      refine .unsettled htask (fun reply hreply => ?_) fun h hh hworker htag => ?_
      · rw [hserving]
        exact hreplies (replied reply hreply)
      · rw [hserving]
        exact tracked h (hheld h hh hworker) hworker htag
    | republishing next => exact .republishing next
    | reporting outcome vouched =>
      refine .reporting outcome ?_
      rw [hserving]
      exact vouched.mono hreplies
    | finished outcome => exact .finished outcome
  | _ => trivial

/-- What one question of a worker does to its task and to the world, if every route leads into one
queue. -/
inductive Turn (c : Config) (w : World) (i : Nat) (tag : UInt64) (o : Amqp.Occurrence) :
    Processing.Task → Processing.Task → World → Prop where
  /-- Something is counted on the way, which is no end of a message. -/
  | counted {heard : List Processing.Reply} {old new : Processing.Task} (m : Metrics)
      (hold : Processing.Unsettled c.processing o heard old)
      (hnew : Processing.Unsettled c.processing o heard new)
      (replied : ∀ reply ∈ heard, (w.serving i, reply) ∈ w.replies)
      (tracked : ∀ h ∈ w.held, h.worker = i → h.tag = tag → h.copy.id = w.serving i)
      (hm : ∀ fate, m.tally fate = w.metrics.tally fate) :
    Turn c w i tag o old new (w.recount m)
  /-- The provider replies. -/
  | heard {heard : List Processing.Reply} {old new : Processing.Task} (reply : Processing.Reply)
      (hold : Processing.Unsettled c.processing o heard old)
      (hnew : Processing.Unsettled c.processing o (reply :: heard) new)
      (replied : ∀ reply ∈ heard, (w.serving i, reply) ∈ w.replies)
      (tracked : ∀ h ∈ w.held, h.worker = i → h.tag = tag → h.copy.id = w.serving i) :
    Turn c w i tag o old new (w.hear i reply)
  /-- The settlement failed. -/
  | kept {heard : List Processing.Reply} {old : Processing.Task}
      (hold : Processing.Unsettled c.processing o heard old) :
    Turn c w i tag o old (Processing.report .settlementFailed) w
  /-- The message was delivered and is acknowledged. -/
  | delivered {heard : List Processing.Reply} {old : Processing.Task}
      (hold : Processing.Unsettled c.processing o heard old)
      (before after : List Held) (copy : Copy) (receipt : String) (hid : copy.id = w.serving i)
      (hheld : w.held = before ++ ⟨i, tag, copy⟩ :: after)
      (vouched : w.Vouched c (w.serving i) (.succeeded receipt)) :
    Turn c w i tag o old (Processing.report (.succeeded receipt)) (w.settle (before ++ after))
  /-- The message is acknowledged, and its retry is to be published. -/
  | released {heard : List Processing.Reply} {old : Processing.Task}
      (hold : Processing.Unsettled c.processing o heard old)
      (before after : List Held) (copy : Copy) (next : UInt32) (hid : copy.id = w.serving i)
      (hheld : w.held = before ++ ⟨i, tag, copy⟩ :: after) :
    Turn c w i tag o old (Processing.republishAndReport c.processing o next)
      (w.settle (before ++ after))
  /-- The message is rejected. -/
  | rejected {heard : List Processing.Reply} {old : Processing.Task}
      (hold : Processing.Unsettled c.processing o heard old)
      (before after : List Held) (copy : Copy) (reason : DeadLetterReason)
      (hid : copy.id = w.serving i) (hheld : w.held = before ++ ⟨i, tag, copy⟩ :: after) :
    Turn c w i tag o old (Processing.report (.deadLettered reason))
      ((w.settle (before ++ after)).put .deadLetter copy)
  /-- The retry is published. -/
  | republished (next : UInt32) :
    Turn c w i tag o (Processing.republishAndReport c.processing o next)
      (Processing.report (.retrying next))
      (w.put .retry ⟨w.serving i, (Processing.retryOf c.processing o next).occurrence⟩)
  /-- The retry could not be published. -/
  | lost (next : UInt32) :
    Turn c w i tag o (Processing.republishAndReport c.processing o next)
      (Processing.report (.retryLost next)) w
  | reported (outcome : Outcome) (vouched : w.Vouched c (w.serving i) outcome) :
    Turn c w i tag o (Processing.report outcome) (.done outcome) (w.count i (.outcome outcome))

/-- Counting something on the way is no report. -/
theorem World.count_eq {e : Metrics.Event} (he : ∀ outcome, e ≠ .outcome outcome) :
    w.count i e = w.recount (w.metrics.record e) := by
  cases e with
  | outcome outcome => exact absurd rfl (he outcome)
  | _ => rfl

/-- Counting something on the way tells of no end. -/
theorem tally_record_of_ne {e : Metrics.Event} (he : ∀ outcome, e ≠ .outcome outcome) (m : Metrics)
    (fate : Fate) : (m.record e).tally fate = m.tally fate := by
  cases e with
  | outcome outcome => exact absurd rfl (he outcome)
  | _ => rw [m.tally_record]; exact UInt64.add_zero _

/-- **There is nothing else that a question can do.** -/
theorem turn_of_reacts {a : Processing.Action} {next : a.Answer → Processing.Task}
    {answer : a.Answer} (hc : c.validate = .ok ()) (hp : Progress c w i tag o (.ask a next))
    (hr : World.Reacts c w i tag a answer w') :
    Turn c w i tag o (.ask a next) (next answer) w' := by
  cases hp with
  | unsettled htask replied tracked =>
    -- the copy that goes by the tag is one of the message that the worker serves
    have hid : ∀ before copy after, w.held = before ++ ⟨i, tag, copy⟩ :: after →
        copy.id = w.serving i := fun before copy after hheld => by
      refine tracked ⟨i, tag, copy⟩ ?_ rfl rfl
      rw [hheld]
      exact List.mem_append_right _ List.mem_cons_self
    have hold := htask
    -- a settlement reaches the broker or fails, and what follows depends on which
    cases htask with
    | count e _ hne hnext =>
      cases hr with | count _ =>
      rw [World.count_eq hne]
      exact .counted _ hold hnext replied tracked (tally_record_of_ne hne _)
    | send token n _ hnext =>
      cases hr with | send _ _ _ =>
      exact .heard answer hold (hnext answer) replied tracked
    | reject reason =>
      cases hr with
      | rejected before after copy _ hheld =>
        rw [World.expel_main _ hc]
        exact .rejected hold before after copy reason (hid _ _ _ hheld) hheld
      | unsettled _ e => exact .kept hold
    | acknowledge reply receipt hheard hdelivered =>
      cases hr with
      | acknowledged before after copy _ hheld =>
        refine .delivered hold before after copy receipt (hid _ _ _ hheld) hheld ?_
        rintro _ ⟨⟩
        exact ⟨reply, replied reply hheard, hdelivered⟩
      | unsettled _ e => exact .kept hold
    | retry count =>
      cases hr with
      | acknowledged before after copy _ hheld =>
        exact .released hold before after copy count (hid _ _ _ hheld) hheld
      | unsettled _ e => exact .kept hold
  | republishing count =>
    cases hr with
    | published _ _ =>
      have hstore := w.store_retry hc
        ⟨w.serving i, (Processing.retryOf c.processing o count).occurrence⟩
      show Turn c w i tag o _ _ (w.store c c.retryExchange c.retryRoutingKey _)
      rw [hstore]
      exact .republished count
    | unpublished _ e => exact .lost count
  | reporting outcome vouched =>
    cases hr with | count _ =>
    exact .reported outcome vouched

namespace Turn

variable {old new : Processing.Task}

/-- A question changes neither what was accepted nor whom the workers serve. -/
theorem accepted_eq (h : Turn c w i tag o old new w') : w'.accepted = w.accepted := by
  cases h <;> rfl

theorem serving_eq (h : Turn c w i tag o old new w') : w'.serving = w.serving := by
  cases h <;> rfl

/-- A question takes back nothing that the provider said. -/
theorem replies_subset (h : Turn c w i tag o old new w') : w.replies ⊆ w'.replies := by
  cases h with
  | heard reply _ _ _ _ => exact List.subset_cons_self _ _
  | _ => exact List.Subset.refl _

/-- A question hands nothing out. -/
theorem held_subset (h : Turn c w i tag o old new w') : w'.held ⊆ w.held := by
  have hsettled : ∀ {before after : List Held} {h : Held}, w.held = before ++ h :: after →
      before ++ after ⊆ w.held := fun hheld => by
    rw [hheld]
    exact List.append_subset.2
      ⟨List.subset_append_left _ _,
        List.Subset.trans (List.subset_cons_self _ _) (List.subset_append_right _ _)⟩
  cases h with
  | delivered _ _ _ _ _ _ hheld _ => exact hsettled hheld
  | released _ _ _ _ _ _ hheld => exact hsettled hheld
  | rejected _ _ _ _ _ _ hheld => exact hsettled hheld
  | _ => exact List.Subset.refl _

/-- After a question the worker is again where it can be. -/
theorem progress (h : Turn c w i tag o old new w') : Progress c w' i tag o new := by
  cases h with
  | counted m _ hnew replied tracked _ => exact .unsettled hnew replied tracked
  | heard reply _ hnew replied tracked =>
    refine .unsettled hnew (fun r hr => ?_) tracked
    rcases List.mem_cons.1 hr with rfl | hr
    · exact List.mem_cons_self
    · exact List.mem_cons_of_mem _ (replied r hr)
  | delivered _ _ _ _ receipt _ _ vouched => exact .reporting _ vouched
  | released _ _ _ _ next _ _ => exact .republishing next
  | reported outcome _ => exact .finished outcome
  | _ => exact .reporting _ (World.vouched_of_ne (by rintro _ ⟨⟩))

end Turn

/-! ### The phases of a worker -/

variable {pool pool' : Worker.Pool}

/-- Before its settlement a worker owes nothing. -/
theorem debt?_of_unsettled {heard : List Processing.Reply}
    (h : Processing.Unsettled c.processing o heard task) :
    debt? (.handling tag task) = none := by
  cases h with
  | count e next hne hnext =>
    cases e with
    | outcome outcome => exact absurd rfl (hne outcome)
    | _ => rfl
  | _ => rfl

@[simp] theorem debt?_report (outcome : Outcome) :
    debt? (.handling tag (Processing.report outcome)) = outcome.fate?.map .report := rfl

@[simp] theorem debt?_republishAndReport (next : UInt32) :
    debt? (.handling tag (Processing.republishAndReport c.processing o next)) = some .publish := rfl

@[simp] theorem debt?_done (outcome : Outcome) : debt? (.handling tag (.done outcome)) = none := rfl

/-- A worker that is handed a delivery was idle and begins its task. -/
theorem workers_of_deliver
    (h : pool.step? c.processing (.deliver i tag o) = some pool') :
    pool.workers[i]? = some .idle ∧
      pool'.workers = pool.workers.set i (.handling tag (Processing.process c.processing o)) := by
  simp only [Worker.Pool.step?] at h
  split at h
  · next hidle _ =>
    cases h
    exact ⟨hidle, rfl⟩
  · cases h

/-- A worker goes on with the answer to its question. -/
theorem workers_of_handle {a : Processing.Action} {next : a.Answer → Processing.Task}
    {answers : (a : Processing.Action) → a.Answer}
    (hasks : pool.workers[i]? = some (.handling tag (.ask a next)))
    (h : pool.step? c.processing (.handle i answers) = some pool') :
    pool'.workers = pool.workers.set i (.handling tag (next (answers a))) := by
  simp only [Worker.Pool.step?, hasks] at h
  cases h
  rfl

/-- An event that touches no message moves one worker at most, who owes nothing before and handles
nothing after it. -/
theorem workers_of_quiet {e : Worker.Pool.Event} (hquiet : isQuiet e = true)
    (h : pool.step? c.processing e = some pool') :
    pool'.workers = pool.workers ∨ ∃ i old new, pool.workers[i]? = some old ∧
      pool'.workers = pool.workers.set i new ∧ debt? old = none ∧
      ∀ tag task, new ≠ .handling tag task := by
  cases e with
  | deliver => cases hquiet
  | handle => cases hquiet
  | crash => cases hquiet
  | cancel =>
    cases h
    exact .inl rfl
  | lose i | leave i =>
    simp only [Worker.Pool.step?] at h
    split at h
    · next hold _ =>
      cases h
      exact .inr ⟨i, _, _, hold, rfl, rfl, by rintro _ _ ⟨⟩⟩
    · cases h
  | conclude i | retire i | vanish i =>
    simp only [Worker.Pool.step?] at h
    split at h
    · next hold =>
      cases h
      exact .inr ⟨i, _, _, hold, rfl, rfl, by rintro _ _ ⟨⟩⟩
    · cases h

end Pipeline

end Courier
