import Courier.Dialogue

/-!
# Paths through dialogues

A path through a dialogue is what has been asked and answered so far, together with what is left of
the dialogue.  Unlike a transcript it needs no world: any answer can be given to any question.

* `Dialogue.Path` : the paths through a dialogue.
* `Dialogue.Path.snoc` : a path goes on with any answer.
* `Dialogue.Follows` : dialogues that ask the questions of a plan and end at the first failure.
* `Dialogue.Path.of_follows` : **a path through such a dialogue keeps to the plan.**
* `Dialogue.Yields` : dialogues that can end only with results of a kind.
-/

namespace Courier

namespace Dialogue

variable {Q : Type} {A : Q → Type} {α β : Type}

/-- The questions with their answers that lead from a dialogue to what is left of it. -/
inductive Path : Dialogue Q A α → List ((q : Q) × A q) → Dialogue Q A α → Prop where
  | refl (d : Dialogue Q A α) : Path d [] d
  /-- A question is answered, and the path goes on after that. -/
  | ask {q : Q} {next : A q → Dialogue Q A α} {a : A q} {l : List ((q : Q) × A q)}
      {d : Dialogue Q A α} (rest : Path (next a) l d) : Path (.ask q next) (⟨q, a⟩ :: l) d

namespace Path

variable {q : Q} {next : A q → Dialogue Q A α} {d d' d'' : Dialogue Q A α}
  {l l' : List ((q : Q) × A q)}

/-- Two paths in a row. -/
theorem trans (h : Path d l d') (h' : Path d' l' d'') : Path d (l ++ l') d'' := by
  induction h with
  | refl d => exact h'
  | ask _ ih => exact .ask (ih h')

/-- A path goes on with any answer to the next question. -/
theorem snoc (h : Path d l (.ask q next)) (a : A q) : Path d (l ++ [⟨q, a⟩]) (next a) :=
  h.trans (.ask (.refl _))

/-- There is nothing left to ask after the end. -/
theorem of_done {a : α} (h : Path (.done a) l d) : l = [] ∧ d = .done a := by
  cases h
  exact ⟨rfl, rfl⟩

/-- A path through a question has not begun, or it begins with an answer to it. -/
theorem of_ask (h : Path (.ask q next) l d) :
    l = [] ∧ d = .ask q next ∨ ∃ a l', l = ⟨q, a⟩ :: l' ∧ Path (next a) l' d := by
  cases h with
  | refl _ => exact .inl ⟨rfl, rfl⟩
  | ask rest => exact .inr ⟨_, _, rfl, rest⟩

end Path

/-! ### Plans -/

section Follows

variable {ε ε' : Type} {failed : (q : Q) → A q → Bool}

/-- A dialogue that asks some questions one after the other, ends with an error at the first answer
that is a failure, and goes on as another dialogue after the last one. -/
inductive Follows (failed : (q : Q) → A q → Bool) :
    List Q → Dialogue Q A (Except ε α) → Dialogue Q A (Except ε α) → Prop where
  | refl (d : Dialogue Q A (Except ε α)) : Follows failed [] d d
  | ask {q : Q} {next : A q → Dialogue Q A (Except ε α)} {plan : List Q}
      {d : Dialogue Q A (Except ε α)}
      (stops : ∀ a, failed q a = true → ∃ e, next a = .done (.error e))
      (goes : ∀ a, failed q a = false → Follows failed plan (next a) d) :
    Follows failed (q :: plan) (.ask q next) d

variable {plan plan' : List Q} {d d' d'' : Dialogue Q A (Except ε α)}

/-- Two plans in a row. -/
theorem Follows.trans (h : Follows failed plan d d') (h' : Follows failed plan' d' d'') :
    Follows failed (plan ++ plan') d d'' := by
  induction h with
  | refl d => exact h'
  | ask stops _ ih => exact .ask stops fun a ha => ih a ha h'

/-- A dialogue keeps to its plan when another one takes its result over, if that passes errors
on. -/
theorem Follows.bind {f : Except ε α → Dialogue Q A (Except ε' β)}
    (h : Follows failed plan d d') (hf : ∀ e, ∃ e', f (.error e) = .done (.error e')) :
    Follows failed plan (d.bind f) (d'.bind f) := by
  induction h with
  | refl d => exact .refl _
  | @ask q next plan d stops _ ih =>
    refine .ask (fun a ha => ?_) ih
    obtain ⟨e, he⟩ := stops a ha
    rw [he]
    exact hf e

/-- A plan goes on with the result of a dialogue, if errors are passed on. -/
theorem Follows.andThen {a : α} {f : Except ε α → Dialogue Q A (Except ε' β)}
    {e : Dialogue Q A (Except ε' β)} (h : Follows failed plan d (.done (.ok a)))
    (hf : ∀ e, ∃ e', f (.error e) = .done (.error e')) (h' : Follows failed plan' (f (.ok a)) e) :
    Follows failed (plan ++ plan') (d.bind f) e :=
  (h.bind hf).trans h'

/-- No answer was a failure. -/
def Smooth (failed : (q : Q) → A q → Bool) (l : List ((q : Q) × A q)) : Prop :=
  ∀ x ∈ l, failed x.1 x.2 = false

/-- A dialogue that is under way in a plan: it asks the next question, or the last one failed and
it has ended with an error. -/
inductive Under (failed : (q : Q) → A q → Bool) (plan : List Q) :
    List ((q : Q) × A q) → Dialogue Q A (Except ε α) → Prop where
  | asks {l : List ((q : Q) × A q)} {q : Q} {next : A q → Dialogue Q A (Except ε α)}
      (planned : l.map Sigma.fst ++ [q] <+: plan) (smooth : Smooth failed l) :
    Under failed plan l (.ask q next)
  | fails {l : List ((q : Q) × A q)} {q : Q} {a : A q} (e : ε)
      (planned : l.map Sigma.fst ++ [q] <+: plan) (smooth : Smooth failed l)
      (refused : failed q a = true) : Under failed plan (l ++ [⟨q, a⟩]) (.done (.error e))

variable {l l' : List ((q : Q) × A q)}

theorem Smooth.nil : Smooth failed [] := List.forall_mem_nil _

theorem Smooth.single {q : Q} {a : A q} (h : failed q a = false) : Smooth failed [⟨q, a⟩] :=
  List.forall_mem_singleton.2 h

theorem Smooth.append (h : Smooth failed l) (h' : Smooth failed l') : Smooth failed (l ++ l') :=
  List.forall_mem_append.2 ⟨h, h'⟩

/-- A plan goes on under way where another one has been kept. -/
theorem Under.after (h : Under failed plan' l' d) (hplanned : l.map Sigma.fst = plan)
    (hsmooth : Smooth failed l) : Under failed (plan ++ plan') (l ++ l') d := by
  subst hplanned
  cases h with
  | asks planned smooth =>
    refine .asks ?_ (hsmooth.append smooth)
    rw [List.map_append, List.append_assoc, List.prefix_append_right_inj]
    exact planned
  | fails e planned smooth refused =>
    rw [← List.append_assoc]
    refine .fails e ?_ (hsmooth.append smooth) refused
    rw [List.map_append, List.append_assoc, List.prefix_append_right_inj]
    exact planned

/-- What is under way in a plan is under way in a longer one. -/
theorem Under.mono (h : Under failed plan l d) (hle : plan <+: plan') :
    Under failed plan' l d := by
  cases h with
  | asks planned smooth => exact .asks (planned.trans hle) smooth
  | fails e planned smooth refused => exact .fails e (planned.trans hle) smooth refused

/-- **A path through a dialogue with a plan keeps to it**: it is under way in it, or it has come to
its end without a failure. -/
theorem Path.of_follows (h : Follows failed plan d d') (hpath : Path d l d'') :
    Under failed plan l d'' ∨ ∃ l₁ l₂, l = l₁ ++ l₂ ∧ l₁.map Sigma.fst = plan ∧
      Smooth failed l₁ ∧ Path d' l₂ d'' := by
  induction h generalizing l with
  | refl d => exact .inr ⟨[], l, rfl, rfl, .nil, hpath⟩
  | @ask q next plan d stops _ ih =>
    rcases hpath.of_ask with ⟨rfl, rfl⟩ | ⟨a, l', rfl, hrest⟩
    · exact .inl (.asks (List.prefix_append [q] plan) .nil)
    · have hfirst : ([⟨q, a⟩] : List ((q : Q) × A q)).map Sigma.fst = [q] := rfl
      cases ha : failed q a with
      | true =>
        obtain ⟨e, he⟩ := stops a ha
        rw [he] at hrest
        obtain ⟨rfl, rfl⟩ := hrest.of_done
        exact .inl (.fails (l := []) e (List.prefix_append [q] plan) .nil ha)
      | false =>
        have hsmooth : Smooth failed [⟨q, a⟩] := .single ha
        rcases ih a ha hrest with hunder | ⟨l₁, l₂, rfl, rfl, hl₁, hd⟩
        · exact .inl (hunder.after hfirst hsmooth)
        · exact .inr ⟨⟨q, a⟩ :: l₁, l₂, rfl, rfl, hsmooth.append hl₁, hd⟩

end Follows

/-! ### Results -/

/-- Whatever is answered, the result is of a kind. -/
def Yields (P : α → Prop) : Dialogue Q A α → Prop
  | .done a => P a
  | .ask _ next => ∀ a, (next a).Yields P

section Yields

variable {P : α → Prop} {R : β → Prop} {d d' : Dialogue Q A α} {l : List ((q : Q) × A q)}

/-- What is true of everything is true of a result. -/
theorem yields_of_forall (h : ∀ a, P a) (d : Dialogue Q A α) : d.Yields P := by
  induction d with
  | done a => exact h a
  | ask q next ih => exact ih

/-- The result of two dialogues in a row is that of the second one. -/
theorem Yields.bind {f : α → Dialogue Q A β} (h : d.Yields P) (hf : ∀ a, P a → (f a).Yields R) :
    (d.bind f).Yields R := by
  induction d with
  | done a => exact hf a h
  | ask q next ih => exact fun a => ih a (h a)

/-- Other questions lead to no other results. -/
theorem Yields.expand {Q' : Type} {A' : Q' → Type} (f : (q : Q) → Dialogue Q' A' (A q))
    (h : d.Yields P) : (d.expand f).Yields P := by
  induction d with
  | done a => exact h
  | ask q next ih =>
    have hanswer : (f q).Yields fun _ => True := yields_of_forall (fun _ => trivial) (f q)
    exact hanswer.bind fun a _ => ih a (h a)

/-- What is left of a dialogue has no other results. -/
theorem Path.yields (h : Path d l d') (hd : d.Yields P) : d'.Yields P := by
  induction h with
  | refl d => exact hd
  | ask rest ih => exact ih (hd _)

end Yields

end Dialogue

end Courier
