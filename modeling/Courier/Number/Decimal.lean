/-!
# Decimal digits

A decimal digit is a number below ten, and a natural number is written as the list of its digits,
the highest one first and without leading zeros.

## Main definitions

* `Decimal.ofNat`, `Decimal.toNat`: digits of a number, number of some digits.
* `Decimal.text`, `Decimal.intText`: a number as text.
-/

namespace Courier

/-- A decimal digit. -/
abbrev Digit := Fin 10

namespace Decimal

/-- The digit zero. -/
abbrev zero : Digit := 0

/-- The digits of a number, the highest one first. -/
def ofNat (n : Nat) : List Digit :=
  if n < 10 then [Fin.ofNat 10 n] else ofNat (n / 10) ++ [Fin.ofNat 10 (n % 10)]

/-- The number that some digits stand for. -/
def toNat (ds : List Digit) : Nat := ds.foldl (fun n d => n * 10 + d.val) 0

theorem toNat_append_singleton (ds : List Digit) (d : Digit) :
    toNat (ds ++ [d]) = toNat ds * 10 + d.val := by
  simp [toNat]

/-- Written digits read back. -/
theorem toNat_ofNat (n : Nat) : toNat (ofNat n) = n := by
  induction n using Nat.strongRecOn with
  | ind n ih =>
    rw [ofNat]
    split
    · next h => simp [toNat, Nat.mod_eq_of_lt h]
    · next h =>
      rw [toNat_append_singleton, ih (n / 10) (by omega)]
      simp only [Fin.ofNat, Nat.mod_mod]
      omega

/-- A digit as a character. -/
def char (d : Digit) : Char := Char.ofNat (48 + d.val)

/-- The digit that a character stands for. -/
def digit? (c : Char) : Option Digit :=
  if h : 48 ≤ c.toNat ∧ c.toNat < 58 then some ⟨c.toNat - 48, by omega⟩ else none

/-- A written digit reads back. -/
theorem digit?_char : ∀ d : Digit, digit? (char d) = some d := by decide

/-- The characters of a number. -/
def chars (n : Nat) : List Char := (ofNat n).map char

/-- A natural number as text. -/
def text (n : Nat) : String := String.ofList (chars n)

/-- The characters of an integer, a minus sign in front of a negative one. -/
def intChars : Int → List Char
  | .ofNat n => chars n
  | .negSucc n => '-' :: chars (n + 1)

/-- An integer as text. -/
def intText (n : Int) : String := String.ofList (intChars n)

end Decimal

end Courier
