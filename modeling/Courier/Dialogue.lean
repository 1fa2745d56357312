/-!
# Dialogues

Whatever a component does to the world is asked for, and how it goes on depends on the answers
alone.  A dialogue is such a component as a value: it has ended, or it asks a question and knows
for every answer how it goes on.  So the order of its effects can be read off it, and any world,
scripted or shared with others, can answer it.

## Main definitions

* `Dialogue`: questions and answers up to a result.
* `Dialogue.run`: a dialogue with a world that answers and changes.
* `Dialogue.Step`: one question answered.
* `Dialogue.expand`: the same dialogue in other questions.
-/

namespace Courier

/-- A component that asks questions `q : Q`, is answered in `A q` and ends with a result. -/
inductive Dialogue (Q : Type) (A : Q → Type) (α : Type) where
  /-- The end. -/
  | done (result : α)
  /-- A question, and what comes after each answer. -/
  | ask (question : Q) (next : A question → Dialogue Q A α)

namespace Dialogue

variable {Q : Type} {A : Q → Type} {α β σ : Type}

/-- One dialogue after another. -/
def bind : Dialogue Q A α → (α → Dialogue Q A β) → Dialogue Q A β
  | .done a, f => f a
  | .ask q next, f => .ask q fun answer => (next answer).bind f

instance : Monad (Dialogue Q A) where
  pure := .done
  bind := bind

/-- A single question. -/
def question (q : Q) : Dialogue Q A (A q) := .ask q .done

/-- A dialogue with a world: every question changes the state of the world and is answered. -/
def run (world : (q : Q) → σ → A q × σ) : Dialogue Q A α → σ → α × σ
  | .done a, s => (a, s)
  | .ask q next, s =>
    let (answer, s) := world q s
    (next answer).run world s

/-- The same dialogue in other questions: every question becomes a dialogue of its own. -/
def expand {Q' : Type} {A' : Q' → Type} (f : (q : Q) → Dialogue Q' A' (A q)) :
    Dialogue Q A α → Dialogue Q' A' α
  | .done a => .done a
  | .ask q next => (f q).bind fun answer => (next answer).expand f

/-- A dialogue with one more question answered. -/
inductive Step : Dialogue Q A α → (q : Q) → A q → Dialogue Q A α → Prop where
  /-- The answer decides what comes after. -/
  | answer (q : Q) (next : A q → Dialogue Q A α) (a : A q) : Step (.ask q next) q a (next a)

@[simp] theorem pure_bind (a : α) (f : α → Dialogue Q A β) : (done a).bind f = f a := rfl

@[simp] theorem ask_bind (q : Q) (next : A q → Dialogue Q A α) (f : α → Dialogue Q A β) :
    (ask q next).bind f = ask q fun answer => (next answer).bind f := rfl

@[simp] theorem bind_eq (d : Dialogue Q A α) (f : α → Dialogue Q A β) : d >>= f = d.bind f := rfl

@[simp] theorem pure_eq (a : α) : (pure a : Dialogue Q A α) = done a := rfl

@[simp] theorem run_done (world : (q : Q) → σ → A q × σ) (a : α) (s : σ) :
    (done a : Dialogue Q A α).run world s = (a, s) := rfl

@[simp] theorem run_ask (world : (q : Q) → σ → A q × σ) (q : Q)
    (next : A q → Dialogue Q A α) (s : σ) :
    (ask q next).run world s = (next (world q s).1).run world (world q s).2 := rfl

theorem bind_done (d : Dialogue Q A α) : d.bind done = d := by
  induction d with
  | done a => rfl
  | ask q next ih => simp [ih]

theorem bind_assoc {γ : Type} (d : Dialogue Q A α) (f : α → Dialogue Q A β)
    (g : β → Dialogue Q A γ) : (d.bind f).bind g = d.bind fun a => (f a).bind g := by
  induction d with
  | done a => rfl
  | ask q next ih => simp [ih]

/-- The world answers two dialogues in a row as it answers them one after the other. -/
theorem run_bind (world : (q : Q) → σ → A q × σ) (d : Dialogue Q A α)
    (f : α → Dialogue Q A β) (s : σ) :
    (d.bind f).run world s = (f (d.run world s).1).run world (d.run world s).2 := by
  induction d generalizing s with
  | done a => rfl
  | ask q next ih => simp [ih]

/-- A world that answers the expansion of every question as another one answers the question
itself answers the whole dialogue as that one. -/
theorem run_expand {Q' : Type} {A' : Q' → Type} (f : (q : Q) → Dialogue Q' A' (A q))
    (world : (q : Q) → σ → A q × σ) (world' : (q : Q') → σ → A' q × σ)
    (h : ∀ q s, (f q).run world' s = world q s) (d : Dialogue Q A α) (s : σ) :
    (d.expand f).run world' s = d.run world s := by
  induction d generalizing s with
  | done a => rfl
  | ask q next ih => simp [expand, run_bind, h, ih]

end Dialogue

end Courier
