import Courier.Dialogue

/-!
# Transcripts

The transcript of a dialogue with a world lists the questions with the answers that the world gave,
in order.  It is what an observer between the two could write down, so statements about the order
and the number of effects are statements about transcripts.

## Main definitions

* `Dialogue.transcript`: the questions with their answers.
-/

namespace Courier

namespace Dialogue

variable {Q : Type} {A : Q → Type} {α β σ : Type}

/-- The questions of a dialogue with the answers of a world, in order. -/
def transcript (world : (q : Q) → σ → A q × σ) : Dialogue Q A α → σ → List ((q : Q) × A q)
  | .done _, _ => []
  | .ask q next, s => ⟨q, (world q s).1⟩ :: (next (world q s).1).transcript world (world q s).2

variable {world : (q : Q) → σ → A q × σ}

@[simp] theorem transcript_done (a : α) (s : σ) :
    (done a : Dialogue Q A α).transcript world s = [] := rfl

@[simp] theorem transcript_ask (q : Q) (next : A q → Dialogue Q A α) (s : σ) :
    (ask q next).transcript world s =
      ⟨q, (world q s).1⟩ :: (next (world q s).1).transcript world (world q s).2 := rfl

/-- The transcript of two dialogues in a row is that of the first and then that of the second. -/
theorem transcript_bind (d : Dialogue Q A α) (f : α → Dialogue Q A β) (s : σ) :
    (d.bind f).transcript world s =
      d.transcript world s ++ (f (d.run world s).1).transcript world (d.run world s).2 := by
  induction d generalizing s with
  | done a => rfl
  | ask q next ih => simp [ih]

end Dialogue

end Courier
