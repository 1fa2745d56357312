import Courier.Proofs.Processing.Course

/-!
# The discipline of a worker

A task that handles an occurrence can be stopped between any two questions.  What it may still do
is then determined by how far it is: it has not settled its delivery, it has acknowledged it and is
about to publish the retry, or it has nothing left but to report its outcome.

* `Processing.report` : the report of an outcome, with which every task ends.
* `Processing.Unsettled` : **the tasks that have not settled their delivery**, by their next
  question and what follows each answer.
* `Processing.unsettled_process` : every occurrence is handled by such a task.
-/

namespace Courier

namespace Processing

/-- Reports an outcome and ends. -/
def report (outcome : Outcome) : Task := .ask (.count (.outcome outcome)) fun _ => .done outcome

/-- Publishes the retry of an occurrence and reports what came of it. -/
def republishAndReport (c : Config) (o : Amqp.Occurrence) (next : UInt32) : Task :=
  .ask (.publish (retryOf c o next)) fun result => report (republished result next)

/-- A task that has not settled the delivery of an occurrence, and the replies of the provider that
it has heard. -/
inductive Unsettled (c : Config) (o : Amqp.Occurrence) : List Reply → Task → Prop where
  /-- It counts something on the way. -/
  | count {heard : List Reply} (e : Metrics.Event) (next : Unit → Task) :
    (∀ outcome, e ≠ .outcome outcome) → Unsettled c o heard (next ()) →
      Unsettled c o heard (.ask (.count e) next)
  /-- It calls the provider and goes on whatever the reply is. -/
  | send {heard : List Reply} (token : String) (n : Notification) (next : Reply → Task) :
    (∀ reply, Unsettled c o (reply :: heard) (next reply)) →
      Unsettled c o heard (.ask (.send token n) next)
  /-- It rejects the delivery and reports that the message is given up. -/
  | reject {heard : List Reply} (reason : DeadLetterReason) :
    Unsettled c o heard (.ask (.settle .reject) fun result =>
      report (settled result (.deadLettered reason)))
  /-- It acknowledges the delivery and reports that the message was delivered, as it has heard. -/
  | acknowledge {heard : List Reply} (reply : Reply) (id : String) :
    reply ∈ heard → reply.delivered? c.deliveryTimeout = some id →
      Unsettled c o heard (.ask (.settle .ack) fun result =>
        report (settled result (.succeeded id)))
  /-- It acknowledges the delivery and, if that reached the broker, publishes the retry. -/
  | retry {heard : List Reply} (next : UInt32) :
    Unsettled c o heard (.ask (.settle .ack) fun
      | .ok () => republishAndReport c o next
      | .error _ => report .settlementFailed)

variable {c : Config} {o : Amqp.Occurrence} {heard : List Reply}

/-- A settlement and the report of what came of it. -/
theorem settleWith_bind_report (k : Amqp.Settlement) (outcome : Outcome) :
    (settleWith k outcome).bind report =
      .ask (.settle k) fun result => report (settled result outcome) := by
  rw [settleWith, Dialogue.ask_bind]
  congr 1
  funext result
  cases result <;> rfl

/-- A retry and the report of what came of it. -/
theorem retry_bind_report (next : UInt32) :
    (retry c o next).bind report =
      .ask (.settle .ack) fun
        | .ok () => republishAndReport c o next
        | .error _ => report .settlementFailed := by
  rw [retry, Dialogue.ask_bind]
  congr 1
  funext result
  cases result with
  | error e => rfl
  | ok _ =>
    show (republish c o next).bind report = republishAndReport c o next
    rw [republish, Dialogue.ask_bind, republishAndReport]
    congr 1
    funext result
    cases result <;> rfl

theorem unsettled_deadLetter (reason : DeadLetterReason) :
    Unsettled c o heard ((deadLetter reason).bind report) := by
  rw [deadLetter, settleWith_bind_report]
  exact .reject reason

theorem unsettled_afterFailure : Unsettled c o heard ((afterFailure c o).bind report) := by
  by_cases hlt : o.retryCount < c.policy.maxRetries
  · rw [afterFailure_of_lt hlt, retry_bind_report]
    exact .retry _
  · rw [afterFailure_of_le (UInt32.not_lt.1 hlt)]
    exact unsettled_deadLetter _

theorem unsettled_proceed (reply : Reply) :
    Unsettled c o (reply :: heard)
      ((proceed c o (reply.delivered? c.deliveryTimeout)).bind report) := by
  cases hd : reply.delivered? c.deliveryTimeout with
  | some id =>
    rw [proceed, settleWith_bind_report]
    exact .acknowledge reply id List.mem_cons_self hd
  | none => exact .count .deliveryFailure _ (by rintro _ ⟨⟩) unsettled_afterFailure

/-- **Every occurrence is handled by a task that has not settled its delivery.** -/
theorem unsettled_process (c : Config) (o : Amqp.Occurrence) : Unsettled c o [] (process c o) := by
  refine .count .received _ (by rintro _ ⟨⟩) ?_
  rcases unusable_or_addressed c o.body with ⟨reason, h⟩ | ⟨token, n, h⟩
  · rw [handle_of_unusable h]
    exact unsettled_deadLetter reason
  · rw [handle_of_addressed h, attempt_eq]
    exact .send token n _ fun reply => unsettled_proceed reply

end Processing

end Courier
