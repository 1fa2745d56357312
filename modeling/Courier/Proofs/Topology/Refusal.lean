import Courier.Proofs.Service.Startup
import Courier.Proofs.Topology.Again
import Courier.Proofs.Transcript

/-!
# Refused declarations

A broker may refuse any of the nine declarations of a topology.  Whoever declares it goes on up to
the first refusal and asks for nothing after it; the error is of the kind of the refused
declaration and has its names.  The name that the broker reports for the main queue is that of its
binding and of the declared topology.

* `Topology.failureOf?` : the failure of a method that was refused.
* `Topology.reportedName` : the name of the main queue, by the answers.
* `Topology.Goes` : methods that are sent as planned, up to the first refusal.
* `Topology.Keeps` : a dialogue in which they are, whatever the answers.
* `Topology.stops_at_first_refusal` : **the declarations of a topology stop at the first refusal and
  name it.**
-/

namespace Courier

namespace Topology

open Amqp (Ask Method)
open Dialogue (Smooth)

variable {χ σ : Type}

/-- What was asked of a connection, with the answers, in order. -/
abbrev Talk (χ : Type) := List ((q : Ask χ) × q.Answer)

/-- The failure of a method that was refused: it is of the kind of what was to be declared, and has
the names that were sent. -/
def failureOf? : Method → Reason → Option TopologyError
  | .exchangeDeclare name, reason => some (.exchange name reason)
  | .queueDeclare name _ _, reason => some (.queue name reason)
  | .queueBind q exchange key, reason => some (.binding q exchange key reason)
  | _, _ => none

/-- The name of a queue that the broker reports with an answer. -/
def reported? : (x : (q : Ask χ) × q.Answer) → Option String
  | ⟨.call _ m, answer⟩ => Service.reportedOf? m answer
  | _ => none

/-- The name of the main queue, which is the first queue to be declared, as far as it is known. -/
def reportedName (l : Talk χ) : String := (l.findSome? reported?).getD ""

/-! ### Methods sent as planned -/

/-- Methods that are sent as planned, one after the other: up to the first one that is refused,
whose failure is the result, or all of them, and then the result is `t`. -/
inductive Goes (channel : χ) (t : Topology) :
    List Method → Talk χ → Except TopologyError Topology → Prop where
  | complete : Goes channel t [] [] (.ok t)
  | refused {m : Method} {plan : List Method} {reason : Reason} {e : TopologyError}
      (named : failureOf? m reason = some e) :
    Goes channel t (m :: plan) [⟨.call channel m, .error reason⟩] (.error e)
  | accepted {m : Method} {plan : List Method} {l : Talk χ} {r : Except TopologyError Topology}
      (reply : m.Reply) (rest : Goes channel t plan l r) :
    Goes channel t (m :: plan) (⟨.call channel m, .ok reply⟩ :: l) r

namespace Goes

variable {channel : χ} {t : Topology} {plan : List Method} {l : Talk χ}
  {r : Except TopologyError Topology}

/-- Only what is planned is sent, in the order of the plan. -/
theorem planned (h : Goes channel t plan l r) :
    l.map Sigma.fst <+: plan.map (.call channel) := by
  induction h with
  | complete => exact List.prefix_refl _
  | refused named => exact List.prefix_append [_] _
  | accepted reply rest ih => exact (List.prefix_cons_inj _).2 ih

/-- The result is `t` exactly if everything was sent and accepted. -/
theorem ok_iff (h : Goes channel t plan l r) (t' : Topology) :
    r = .ok t' ↔ l.length = plan.length ∧ Smooth Ask.refused l ∧ t' = t := by
  induction h with
  | complete =>
    constructor
    · rintro ⟨⟩
      exact ⟨rfl, .nil, rfl⟩
    · rintro ⟨-, -, rfl⟩
      rfl
  | refused named =>
    refine iff_of_false nofun fun hall => ?_
    -- its only answer is a refusal
    cases hall.2.1 _ (List.mem_singleton_self _)
  | @accepted m _ _ _ reply rest ih =>
    have hfirst : Smooth Ask.refused ([⟨.call channel m, .ok reply⟩] : Talk χ) := .single rfl
    rw [ih, List.length_cons, List.length_cons, Nat.add_right_cancel_iff]
    refine and_congr_right fun _ => and_congr_left fun _ => ?_
    exact ⟨hfirst.append, fun hall x hx => hall x (List.mem_cons_of_mem _ hx)⟩

/-- Otherwise the last method was refused, the first one of all, and the result is its failure. -/
theorem of_error {e : TopologyError} (h : Goes channel t plan l (.error e)) :
    ∃ before m reason, l = before ++ [⟨.call channel m, .error reason⟩] ∧
      Smooth Ask.refused before ∧ failureOf? m reason = some e := by
  generalize hr : Except.error e = r at h
  induction h with
  | complete => cases hr
  | @refused m _ reason _ named =>
    cases hr
    exact ⟨[], m, reason, rfl, .nil, named⟩
  | @accepted m _ _ _ reply rest ih =>
    obtain ⟨before, m', reason, rfl, hbefore, hnamed⟩ := ih hr
    have hfirst : Smooth Ask.refused ([⟨.call channel m, .ok reply⟩] : Talk χ) := .single rfl
    exact ⟨⟨.call channel m, .ok reply⟩ :: before, m', reason, rfl, hfirst.append hbefore, hnamed⟩

end Goes

/-! ### Dialogues that keep to a plan -/

/-- A dialogue that goes as planned in every world.  The plan and what it comes to may depend on the
name that is reported for the main queue. -/
structure Keeps (channel : χ) (plan : String → List Method) (t : String → Topology)
    (d : Amqp.Connection χ (Except TopologyError Topology)) : Prop where
  goes : ∀ {σ : Type} (world : (q : Ask χ) → σ → q.Answer × σ) (s : σ),
    Goes channel (t (reportedName (d.transcript world s)))
      (plan (reportedName (d.transcript world s))) (d.transcript world s) (d.run world s).1

section Keeps

variable {channel : χ} {plan : String → List Method} {t : String → Topology}

/-- What is accepted first may give the name that is reported first. -/
theorem reportedName_cons {m : Method} (reply : m.Reply) (l : Talk χ) :
    reportedName (⟨.call channel m, .ok reply⟩ :: l) =
      (Service.reportedOf? m (.ok reply)).getD (reportedName l) := by
  have hreported : reported? (⟨.call channel m, .ok reply⟩ : (q : Ask χ) × q.Answer) =
      Service.reportedOf? m (.ok reply) := rfl
  rw [reportedName, List.findSome?_cons, hreported]
  cases Service.reportedOf? m (.ok reply) <;> rfl

theorem keeps_done (channel : χ) (a : Topology) :
    Keeps channel (fun _ => []) (fun _ => a) (.done (.ok a)) := ⟨fun _ _ => .complete⟩

/-- A method keeps to the plan if its refusal has the failure that it should have, and if what
follows keeps to the rest of the plan, for the name that is reported with the answer. -/
theorem keeps_call {m : Method}
    {next : (Ask.call channel m).Answer → Amqp.Connection χ (Except TopologyError Topology)}
    (stops : ∀ reason, ∃ e, failureOf? m reason = some e ∧ next (.error reason) = .done (.error e))
    (goes : ∀ reply, Keeps channel
      (fun queue => plan ((Service.reportedOf? m (.ok reply)).getD queue))
      (fun queue => t ((Service.reportedOf? m (.ok reply)).getD queue)) (next (.ok reply))) :
    Keeps channel (fun queue => m :: plan queue) t (.ask (.call channel m) next) := by
  refine ⟨fun world s => ?_⟩
  rw [Dialogue.transcript_ask, Dialogue.run_ask]
  obtain ⟨answer, hanswer⟩ : ∃ answer : Except Reason m.Reply,
      (world (.call channel m) s).1 = answer := ⟨_, rfl⟩
  rw [hanswer]
  cases answer with
  | error reason =>
    obtain ⟨e, hnamed, hnext⟩ := stops reason
    rw [hnext]
    exact .refused hnamed
  | ok reply =>
    rw [reportedName_cons]
    exact .accepted reply ((goes reply).goes world _)

section Declarations

variable {next : String → Declaring (Except TopologyError Topology)}

/-- No name is reported with an exchange. -/
theorem keeps_exchange {name : String}
    (h : Keeps channel plan t ((next name).expand (Declaration.on channel))) :
    Keeps channel (fun queue => .exchangeDeclare name :: plan queue) t
      ((declaring (.exchange name) next).expand (Declaration.on channel)) :=
  keeps_call (fun _ => ⟨_, rfl, rfl⟩) fun _ => h

/-- No name is reported with a binding. -/
theorem keeps_binding {q exchange key : String}
    (h : Keeps channel plan t ((next q).expand (Declaration.on channel))) :
    Keeps channel (fun queue => .queueBind q exchange key :: plan queue) t
      ((declaring (.binding q exchange key) next).expand (Declaration.on channel)) :=
  keeps_call (fun _ => ⟨_, rfl, rfl⟩) fun _ => h

/-- What follows the first queue is planned for the name that is reported with it. -/
theorem keeps_queue {name : String} {options : Amqp.QueueOptions} {arguments : Amqp.Table}
    (h : ∀ queue, Keeps channel (fun _ => plan queue) (fun _ => t queue)
      ((next queue).expand (Declaration.on channel))) :
    Keeps channel (fun queue => .queueDeclare name options arguments :: plan queue) t
      ((declaring (.queue name options arguments) next).expand (Declaration.on channel)) := by
  refine keeps_call (m := .queueDeclare name options arguments) (fun _ => ⟨_, rfl, rfl⟩) ?_
  exact h

end Declarations

/-- The declarations of a topology keep to their plan, if the delay can be one. -/
theorem keeps_declareOn {c : Config} {arguments : Amqp.Table}
    (h : retryQueueArguments c = .ok arguments) :
    Keeps channel (fun queue => methods c queue arguments) (fun queue => ⟨queue, c.retryDelay⟩)
      (declareOn channel c) := by
  simp only [declareOn, declare, h]
  change Keeps channel (fun queue => .exchangeDeclare c.mainExchange ::
    .exchangeDeclare c.deadLetterExchange :: .exchangeDeclare c.retryExchange ::
      mainQueueMethod c :: otherMethods c queue arguments) _ _
  refine keeps_exchange <| keeps_exchange <| keeps_exchange <| keeps_queue fun queue => ?_
  refine keeps_binding <| keeps_queue fun _ => keeps_binding <| keeps_queue fun _ => ?_
  exact keeps_binding <| keeps_done channel _

end Keeps

/-! ### The declarations of a topology -/

/-- A delay that can be one: at least a millisecond, and in a signed integer of 64 bits. -/
def Representable (delay : Duration) : Prop :=
  0 < delay.millis ∧ delay.millis < 9223372036854775808

/-- How the declaration of a topology goes, by what was asked, with the answers, and by the
result. -/
structure Attempted (c : Config) (channel : χ) (l : Talk χ) (r : Except TopologyError Topology) :
    Prop where
  /-- With a delay that cannot be one, nothing is asked. -/
  misfit : ¬ Representable c.retryDelay → l = [] ∧ ∃ problem, r = .error (.invalid problem)
  /-- Otherwise the requests are the nine ones in their order, as far as they go; the binding of the
  main queue has the name that the broker reports. -/
  planned : Representable c.retryDelay → ∃ arguments, retryQueueArguments c = .ok arguments ∧
    l.map Sigma.fst <+: (methods c (reportedName l) arguments).map (.call channel)
  /-- It succeeds exactly if all nine are accepted, with the reported name and the configured
  delay. -/
  declared : Representable c.retryDelay → ∀ t, r = .ok t ↔
    l.length = 9 ∧ Smooth Ask.refused l ∧ t = ⟨reportedName l, c.retryDelay⟩
  /-- If it fails, the last request is the first one that was refused, and the failure is of its
  kind and has its names. -/
  refused : Representable c.retryDelay → ∀ e, r = .error e →
    ∃ before m reason, l = before ++ [⟨.call channel m, .error reason⟩] ∧
      Smooth Ask.refused before ∧ failureOf? m reason = some e

/-- **The declarations of a topology stop at the first refusal and name it**, whatever the broker
answers. -/
theorem stops_at_first_refusal (c : Config) (channel : χ)
    (world : (q : Ask χ) → σ → q.Answer × σ) (s : σ) :
    Attempted c channel ((declareOn channel c).transcript world s)
      ((declareOn channel c).run world s).1 := by
  rcases retryQueueArguments_cases c with ⟨hpos, hfits, arguments, harguments⟩ |
    ⟨hmisfit, problem, hproblem⟩
  · have hgoes : Goes channel _ _ _ _ := (keeps_declareOn harguments).goes world s
    exact
      { misfit := fun hmisfit => absurd ⟨hpos, hfits⟩ hmisfit
        planned := fun _ => ⟨arguments, harguments, hgoes.planned⟩
        declared := fun _ => hgoes.ok_iff
        refused := fun _ e he => (he ▸ hgoes).of_error }
  · rw [Service.declareOn_of_error hproblem]
    exact
      { misfit := fun _ => ⟨rfl, problem, rfl⟩
        planned := fun hfits => absurd hfits hmisfit
        declared := fun hfits => absurd hfits hmisfit
        refused := fun hfits => absurd hfits hmisfit }

end Topology

end Courier
