import Courier.Json.Value
import Courier.Number.Basic

/-!
# What a number means

An integer of 64 bits is taken as it is written.  Every other literal becomes a double in three
steps: its digits are gathered into a significand of at most 64 bits, the digits that do not fit
are counted or dropped, and the significand, rounded once, is multiplied or divided by a rounded
power of ten.  The result can differ from the nearest double in its last bit.  A literal beyond
the largest double means nothing; `-0` is the negative zero among the doubles.

## Main definitions

* `Json.Gathered`: the significand and power of ten of a literal.
* `Json.Literal.number?`: the number that a literal means.
* `Json.Literal.ofNumber?`: the literal that a number is written as.
-/

namespace Courier

namespace Json

/-- The largest significand that is gathered, `2 ^ 64 - 1`. -/
def significandLimit : Nat := 18446744073709551615

/-- The digits of a literal gathered so far. -/
structure Gathered where
  /-- The digits that fit 64 bits. -/
  significand : Nat
  /-- The power of ten that the significand is to be multiplied with. -/
  exponent : Int
  deriving DecidableEq, Repr

/-- Gathers the digits in front of the point.  From the first digit that does not fit on, digits are
only counted; the flag says whether there were such. -/
def gatherWhole (significand : Nat) : List Digit → Gathered × Bool
  | [] => (⟨significand, 0⟩, false)
  | d :: rest =>
    if significand * 10 + d.val ≤ significandLimit then
      gatherWhole (significand * 10 + d.val) rest
    else (⟨significand, (d :: rest).length⟩, true)

/-- Gathers the digits after the point, up to the first that does not fit. -/
def gatherFraction (g : Gathered) : List Digit → Gathered
  | [] => g
  | d :: rest =>
    if g.significand * 10 + d.val ≤ significandLimit then
      gatherFraction ⟨g.significand * 10 + d.val, g.exponent - 1⟩ rest
    else g

/-- The double of a power of ten. -/
def powerOfTen (k : Nat) : Option Magnitude := Magnitude.round? (Nat.pow 10 k) 1

/-- `x * 10 ^ k` with one rounding, for a power of ten that is itself a double. -/
def scaleOnce? (x : Magnitude) (k : Int) : Option Magnitude :=
  if 0 ≤ k then (powerOfTen k.natAbs).bind x.mul? else (powerOfTen k.natAbs).bind x.div?

/-- `x * 10 ^ k`, with one rounding as long as `10 ^ |k|` is a double.  A smaller `k` takes a step
of 308 with a rounding of its own, and `steps` bounds their number. -/
def scaleWithin? : Nat → Magnitude → Int → Option Magnitude
  | steps, x, k =>
    if k.natAbs ≤ 308 then scaleOnce? x k
    else if x.isZero then some x
    else if 0 ≤ k then none
    else
      match steps with
      | 0 => some .zero
      | steps + 1 => (scaleOnce? x (-308)).bind fun y => scaleWithin? steps y (k + 308)

/-- `x * 10 ^ k`.  Three steps of 308 make every double zero. -/
def scale? (x : Magnitude) (k : Int) : Option Magnitude := scaleWithin? 3 x k

/-- The largest exponent that is read, `2 ^ 31 - 1`. -/
def exponentLimit : Nat := 2147483647

/-- The double of gathered digits and a written exponent. -/
def Gathered.magnitude? (g : Gathered) (exponent : Option (Bool × List Digit)) :
    Option Magnitude := do
  let x ← Magnitude.round? g.significand 1
  match exponent with
  | none => scale? x g.exponent
  | some (negative, digits) =>
    let e := Decimal.toNat digits
    if e ≤ exponentLimit then
      scale? x (if negative then g.exponent - e else g.exponent + e)
    else if negative || g.significand == 0 then some .zero
    else none

/-- The number that a literal means. -/
def Literal.number? (l : Literal) : Option Number :=
  let (g, overflow) := gatherWhole 0 l.whole
  if l.isInteger && !overflow && !(l.negative && (g.significand == 0)) then
    if l.negative then
      if h : g.significand ≤ 9223372036854775808 then some (.integer ⟨-g.significand, by omega, by omega⟩)
      else (Magnitude.round? g.significand 1).map fun x => .double ⟨true, x⟩
    else if h : g.significand < 18446744073709551616 then
      some (.integer ⟨g.significand, by omega, by omega⟩)
    else none
  else
    ((gatherFraction g l.fraction).magnitude? l.exponent).map fun x => .double ⟨l.negative, x⟩

/-- The integer that a literal is written as, if it is written as one. -/
def Literal.int? (l : Literal) : Option Int :=
  if l.isInteger then
    some (if l.negative then -(Decimal.toNat l.whole : Int) else Decimal.toNat l.whole)
  else none

/-- The integer of a literal without a minus sign, point or exponent. -/
def Literal.nat? (l : Literal) : Option Nat :=
  if l.isInteger && !l.negative then some (Decimal.toNat l.whole) else none

/-- The digits among some characters, and the characters after them. -/
def takeDigits : List Char → List Digit × List Char
  | [] => ([], [])
  | c :: rest =>
    match Decimal.digit? c with
    | some d => let (ds, rest) := takeDigits rest; (d :: ds, rest)
    | none => ([], c :: rest)

/-- The literal of the text of a number. -/
def Literal.ofChars (cs : List Char) : Literal :=
  let (negative, cs) := match cs with
    | '-' :: rest => (true, rest)
    | cs => (false, cs)
  let (whole, cs) := takeDigits cs
  let (fraction, cs) := match cs with
    | '.' :: rest => takeDigits rest
    | cs => ([], cs)
  let exponent := match cs with
    | 'e' :: '-' :: rest => some (true, (takeDigits rest).1)
    | 'e' :: '+' :: rest => some (false, (takeDigits rest).1)
    | _ => none
  ⟨negative, whole, fraction, exponent⟩

/-- The literal that a number is written as. -/
def Literal.ofNumber : Number → Literal
  | .integer n => .ofInt n.val
  | .double x => .ofChars (x.chars .message)

end Json

end Courier
