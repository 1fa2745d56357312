import Courier.Proofs.Metrics.Accounts

/-!
# Lost messages

A message is lost on one way only: its delivery was acknowledged, and then its retry could not be
published.  Both can be read off what the partners of the worker have answered, so that the outcome
which tells of a loss can be compared with what has happened.

* `Accounts.Handling.isLost` : the partners have answered like that.
* `Accounts.Fate` : how far a handling can be, and whether its message is lost.
* `Accounts.outcome_isLost` : **the outcome tells of a loss exactly if the message was lost.**
-/

namespace Courier

/-- Whether an outcome tells that the message is gone. -/
def Outcome.isLost : Outcome → Bool
  | .succeeded _ => false
  | .retrying _ => false
  | .retryLost _ => true
  | .deadLettered _ => false
  | .settlementFailed => false

namespace Accounts

/-- Whether the broker got an acknowledgement. -/
def acknowledges : (a : Processing.Action) × a.Answer → Bool
  | ⟨.settle .ack, .ok _⟩ => true
  | ⟨.settle .ack, .error _⟩ => false
  | ⟨.settle .reject, _⟩ => false
  | ⟨.count _, _⟩ => false
  | ⟨.send _ _, _⟩ => false
  | ⟨.publish _, _⟩ => false

/-- Whether the broker did not take a retry. -/
def refusesRetry : (a : Processing.Action) × a.Answer → Bool
  | ⟨.publish _, .ok _⟩ => false
  | ⟨.publish _, .error _⟩ => true
  | ⟨.count _, _⟩ => false
  | ⟨.send _ _, _⟩ => false
  | ⟨.settle _, _⟩ => false

/-- Whether a message is lost by what was answered: its delivery was acknowledged, and its retry
could not be published. -/
def loses (past : Past) : Bool := past.any acknowledges && past.any refusesRetry

/-- Whether the message is lost. -/
def Handling.isLost (h : Handling) : Bool := loses h.past

/-- How far a handling can be: before its settlement, between its acknowledgement and its retry, or
with an outcome that tells whether the message is lost. -/
inductive Fate (c : Processing.Config) : Past → Processing.Task → Prop where
  | unsettled {past : Past} {o : Amqp.Occurrence} {heard : List Processing.Reply}
      {rest : Processing.Task} :
    past.any refusesRetry = false → Processing.Unsettled c o heard rest → Fate c past rest
  /-- The only copy of the message is in the hands of the worker. -/
  | acknowledged {past : Past} (o : Amqp.Occurrence) (next : UInt32) :
    past.any acknowledges = true → past.any refusesRetry = false →
      Fate c past (Processing.republishAndReport c o next)
  | reporting {past : Past} (outcome : Outcome) :
    outcome.isLost = loses past → Fate c past (Processing.report outcome)
  | reported {past : Past} (outcome : Outcome) :
    outcome.isLost = loses past → Fate c past (.done outcome)

variable {c : Processing.Config} {past : Past} {outcome : Outcome}

theorem isLost_settled (result : Except BrokerError Unit) (h : outcome.isLost = false) :
    (Processing.settled result outcome).isLost = false := by
  cases result with
  | ok _ => exact h
  | error e => rfl

/-- Nothing is lost as long as no retry was refused. -/
theorem loses_eq_false (h : past.any refusesRetry = false) : loses past = false := by
  rw [loses, h, Bool.and_false]

/-- A handling goes on as it can, whatever the answer to its question is. -/
theorem Fate.ask {a : Processing.Action} {next : a.Answer → Processing.Task}
    (h : Fate c past (.ask a next)) (answer : a.Answer) :
    Fate c (past ++ [⟨a, answer⟩]) (next answer) := by
  have hrefused (x : (a : Processing.Action) × a.Answer) (hpast : past.any refusesRetry = false)
      (hx : refusesRetry x = false) : (past ++ [x]).any refusesRetry = false := by
    simp [hpast, hx]
  cases h with
  | unsettled hpast hrest =>
    cases hrest with
    | count e _ _ hnext => exact .unsettled (hrefused _ hpast rfl) hnext
    | send token n _ hnext => exact .unsettled (hrefused _ hpast rfl) (hnext answer)
    | reject reason =>
      refine .reporting _ ?_
      rw [isLost_settled answer rfl, loses_eq_false (hrefused _ hpast rfl)]
    | acknowledge reply id =>
      refine .reporting _ ?_
      rw [isLost_settled answer rfl, loses_eq_false (hrefused _ hpast rfl)]
    | retry next =>
      cases (answer : Except BrokerError Unit) with
      | ok _ => exact .acknowledged _ next (by simp [acknowledges]) (hrefused _ hpast rfl)
      | error e => exact .reporting _ (loses_eq_false (hrefused _ hpast rfl)).symm
  | acknowledged o next hacked hpast =>
    refine .reporting _ ?_
    rw [loses, List.any_append, List.any_append, hacked, hpast]
    cases (answer : Except BrokerError Unit) <;> rfl
  | reporting outcome hlost =>
    refine .reported _ ?_
    rw [hlost, loses, loses, List.any_append, List.any_append]
    simp [acknowledges, refusesRetry]

/-- A handling with an outcome tells whether its message is lost. -/
theorem Fate.isLost (h : Fate c past (.done outcome)) : outcome.isLost = loses past := by
  cases h with
  | unsettled _ hrest => cases hrest
  | reported _ hlost => exact hlost

variable {s s' : Books}

/-- Every handling is that far after a step if it was before. -/
theorem fates_step (h : Step s s') (hs : ∀ x ∈ s.handlings, Fate x.config x.past x.rest) :
    ∀ x ∈ s'.handlings, Fate x.config x.past x.rest := by
  cases h with
  | arrive c o =>
    intro x hx
    rcases List.mem_append.1 hx with hx | hx
    · exact hs x hx
    · cases List.mem_singleton.1 hx
      exact .unsettled rfl (Processing.unsettled_process c o)
  | call c n => exact hs
  | handle before after c past a next answer asks =>
    have hfate : Fate c past (.ask a next) :=
      hs ⟨c, past, .ask a next⟩ (asks ▸ List.mem_append_right _ List.mem_cons_self)
    exact forall_mem_update (asks ▸ hs) (hfate.ask answer)
  | submit => exact hs

theorem fates_of_reachable (h : Reachable s) :
    ∀ x ∈ s.handlings, Fate x.config x.past x.rest := by
  induction h with
  | refl => exact nofun
  | step _ hstep ih => exact fates_step hstep ih

/-- **The outcome tells of a loss exactly if the message was lost**: if its delivery was
acknowledged and its retry could not be published. -/
theorem outcome_isLost (h : Reachable s) {x : Handling} (hx : x ∈ s.handlings)
    (houtcome : x.outcome? = some outcome) : outcome.isLost = x.isLost := by
  have hfate := fates_of_reachable h x hx
  obtain ⟨c, past, rest⟩ := x
  cases rest with
  | done result =>
    cases houtcome
    exact hfate.isLost
  | ask a next => cases houtcome

end Accounts

end Courier
