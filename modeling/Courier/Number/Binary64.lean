/-!
# Doubles

A finite double is a sign, a significand below `2 ^ 53` and a binary exponent, in the one canonical
form in which the significand has all 53 bits unless the exponent is already the least.  Rounding
is defined once, from an exact quotient of natural numbers to the nearest double, ties to the even
significand, and the arithmetic operations are exact ones followed by that rounding.

## Main definitions

* `Magnitude`: a finite double without its sign.
* `Magnitude.round?`: the nearest magnitude to a quotient, `none` beyond the largest one.
* `Double`: a finite double.
-/

namespace Courier

/-- A non-negative finite double, `significand * 2 ^ exponent`. -/
structure Magnitude where
  /-- The significand, of at most 53 bits. -/
  significand : Nat
  /-- The binary exponent. -/
  exponent : Int
  /-- The significand is below `2 ^ 53`, and not below `2 ^ 52` unless the exponent is the least
  one. -/
  canonical : significand < 9007199254740992 ∧ -1074 ≤ exponent ∧ exponent ≤ 971 ∧
    (4503599627370496 ≤ significand ∨ exponent = -1074)
  deriving DecidableEq, Repr

namespace Magnitude

/-- Zero. -/
def zero : Magnitude := ⟨0, -1074, by decide⟩

/-- Whether a magnitude is zero. -/
def isZero (x : Magnitude) : Bool := x.significand == 0

/-- The quotient of two numbers to the nearest whole number, a half to the even one. -/
def divEven (num den : Nat) : Nat :=
  let q := num / den
  let r := num % den
  if 2 * r < den then q else if den < 2 * r then q + 1 else q + q % 2

/-- `n * 2 ^ e` for a non-negative `e`, and `n` otherwise. -/
def scaleUp (n : Nat) (e : Int) : Nat := n * Nat.pow 2 e.toNat

/-- The greatest `k` with `2 ^ k ≤ num / den`, for positive `num` and `den`. -/
def floorLog (num den : Nat) : Int :=
  let k : Int := (num.log2 : Int) - den.log2
  if scaleUp num (-k) < scaleUp den k then k - 1 else k

/-- The magnitude nearest to `num / den`, a tie going to the even significand; `none` if that is
beyond the largest finite one. -/
def round? (num den : Nat) : Option Magnitude :=
  if num = 0 then some zero else
    let e := max (-1074) (floorLog num den - 52)
    let m := divEven (scaleUp num (-e)) (scaleUp den e)
    let (m, e) := if m = 9007199254740992 then (4503599627370496, e + 1) else (m, e)
    if h : m < 9007199254740992 ∧ -1074 ≤ e ∧ e ≤ 971 ∧ (4503599627370496 ≤ m ∨ e = -1074) then
      some ⟨m, e, h⟩
    else none

/-- The numerator of a magnitude as a quotient. -/
def numerator (x : Magnitude) : Nat := scaleUp x.significand x.exponent

/-- The denominator of a magnitude as a quotient. -/
def denominator (x : Magnitude) : Nat := scaleUp 1 (-x.exponent)

/-- The product of two magnitudes. -/
def mul? (x y : Magnitude) : Option Magnitude :=
  round? (x.numerator * y.numerator) (x.denominator * y.denominator)

/-- The quotient of two magnitudes; division by zero has none. -/
def div? (x y : Magnitude) : Option Magnitude :=
  if y.isZero then none
  else round? (x.numerator * y.denominator) (x.denominator * y.numerator)

end Magnitude

/-- A finite double. -/
structure Double where
  /-- The sign, which zero has as well. -/
  negative : Bool
  /-- The absolute value. -/
  magnitude : Magnitude
  deriving DecidableEq, Repr

end Courier
