import Courier.Number.Binary64
import Courier.Number.Decimal

/-!
# The shortest decimal of a double

A double is written with the fewest digits that lie closer to it than to any other double.  The
numbers that round to a magnitude form an interval, which contains its ends exactly if the
significand is even.  For one digit, two digits and so on, the two neighbours of the magnitude on
the grid of decimals with that many digits are tried, and the nearer one inside the interval is
taken.

## Main definitions

* `Magnitude.shortest`: the digits and the power of ten of the shortest decimal.
* `DoubleFormat`: where a double is written without an exponent, and how an exponent is written.
* `Double.render`: a double as text.
-/

namespace Courier

namespace Magnitude

/-- The interval of numbers that round to a magnitude, as three numerators over one denominator:
its lower end, the magnitude itself and its upper end. -/
structure Interval where
  low : Nat
  mid : Nat
  high : Nat
  den : Nat
  /-- Whether the ends belong to the interval. -/
  closed : Bool

/-- The numbers that round to a positive magnitude.  Below a power of two the next magnitude is
only half as far away. -/
def interval (x : Magnitude) : Interval :=
  let m := x.significand
  let lowGap := if m = 4503599627370496 ∧ x.exponent > -1074 then 1 else 2
  let up := scaleUp 1 (x.exponent - 2)
  { low := (4 * m - lowGap) * up, mid := 4 * m * up, high := (4 * m + 2) * up,
    den := scaleUp 1 (2 - x.exponent), closed := m % 2 == 0 }

/-- Whether `num / den` lies in the interval. -/
def Interval.contains (i : Interval) (num den : Nat) : Bool :=
  if i.closed then i.low * den ≤ num * i.den && num * i.den ≤ i.high * den
  else i.low * den < num * i.den && num * i.den < i.high * den

/-- `10 ^ k` for a non-negative `k`, and one otherwise. -/
def tens (k : Int) : Nat := Nat.pow 10 k.toNat

/-- The greatest `k` with `10 ^ k ≤ num / den`, searched downwards from `k` in at most `fuel`
steps. -/
def floorLogTen (num den : Nat) : Nat → Int → Int
  | 0, k => k
  | fuel + 1, k =>
    if den * tens k ≤ num * tens (-k) then k else floorLogTen num den fuel (k - 1)

/-- The decimal `c * 10 ^ k` of the two neighbours of the magnitude on the grid of multiples of
`10 ^ k` that lies in the interval and is nearer; of two equally near ones the even one. -/
def onGrid? (i : Interval) (k : Int) : Option Nat :=
  let unit := i.den * tens k
  let value := i.mid * tens (-k)
  let below := value / unit
  let above := below + 1
  let inside := fun c => i.contains (c * tens k) (tens (-k))
  match inside below, inside above with
  | false, false => none
  | true, false => some below
  | false, true => some above
  | true, true =>
    let rest := 2 * (value % unit)
    if rest < unit then some below
    else if unit < rest then some above
    else some (below + below % 2)

/-- The first decimal that the grids with `digits`, `digits + 1`, … digits have in the interval. -/
def firstOnGrid (i : Interval) (leading : Int) : Nat → Nat → Nat × Int
  | 0, digits => (0, leading - digits)
  | fuel + 1, digits =>
    let k := leading - digits
    match onGrid? i k with
    | some c => if c = 0 then firstOnGrid i leading fuel (digits + 1) else (c, k)
    | none => firstOnGrid i leading fuel (digits + 1)

/-- The digits without zeros at the end, and the power of ten that makes up for them. -/
def stripZeros (c : Nat) (k : Int) : Nat × Int :=
  if h : c ≠ 0 ∧ c % 10 = 0 then stripZeros (c / 10) (k + 1) else (c, k)
termination_by c
decreasing_by omega

/-- The shortest decimal of a magnitude, `c * 10 ^ k`: seventeen digits always suffice. -/
def shortest (x : Magnitude) : Nat × Int :=
  if x.isZero then (0, 0) else
    let i := x.interval
    let leading := floorLogTen i.mid i.den 640 309
    let (c, k) := firstOnGrid i leading 17 0
    stripZeros c k

end Magnitude

/-- How a double is written. -/
structure DoubleFormat where
  /-- The least decimal exponent that is written out. -/
  leastPlain : Int
  /-- The greatest decimal exponent that is written out. -/
  greatestPlain : Int

/-- The notation of the messages: written out from `0.00001` up to sixteen digits in front of the
point, with an exponent outside. -/
def DoubleFormat.message : DoubleFormat := ⟨-5, 15⟩

namespace Double

/-- The characters of a positive decimal `digits * 10 ^ (exponent - (length - 1))`. -/
def decimalChars (format : DoubleFormat) (digits : List Char) (exponent : Int) : List Char :=
  if format.leastPlain ≤ exponent ∧ exponent ≤ format.greatestPlain then
    if exponent < 0 then
      '0' :: '.' :: (List.replicate (-exponent - 1).toNat '0' ++ digits)
    else
      let whole := exponent.toNat + 1
      let padded := digits ++ List.replicate (whole + 1 - digits.length) '0'
      padded.take whole ++ '.' :: padded.drop whole
  else
    let sign := if exponent < 0 then '-' else '+'
    let power := 'e' :: sign :: Decimal.chars exponent.natAbs
    match digits with
    | [] => power
    | [d] => d :: power
    | d :: rest => d :: '.' :: rest ++ power

/-- The characters of a double. -/
def chars (format : DoubleFormat) (x : Double) : List Char :=
  let (c, k) := x.magnitude.shortest
  let digits := Decimal.chars c
  let body := decimalChars format digits (k + (digits.length : Int) - 1)
  if x.negative then '-' :: body else body

/-- A double as text. -/
def render (x : Double) : String := String.ofList (x.chars .message)

end Double

end Courier
