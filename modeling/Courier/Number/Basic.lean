import Courier.Number.Shortest

/-!
# Numbers of a message

A number that a message carries is an integer as long as it fits 64 bits, signed or unsigned, and a
double otherwise.

## Main definitions

* `Number`: an integer of 64 bits or a double.
* `Number.render`: a number as text.
-/

namespace Courier

/-- An integer that fits 64 bits, with or without a sign. -/
structure WideInt where
  /-- The integer. -/
  val : Int
  /-- It is no less than the least signed one, `-2 ^ 63`. -/
  le_val : -9223372036854775808 ≤ val
  /-- It is no more than the greatest unsigned one, `2 ^ 64 - 1`. -/
  val_lt : val < 18446744073709551616
  deriving DecidableEq, Repr

/-- A number of a message. -/
inductive Number where
  | integer (n : WideInt)
  /-- Any other number. -/
  | double (x : Double)
  deriving DecidableEq, Repr

namespace Number

/-- The characters of a number. -/
def chars : Number → List Char
  | .integer n => Decimal.intChars n.val
  | .double x => x.chars .message

/-- A number as text. -/
def render (n : Number) : String := String.ofList n.chars

end Number

end Courier
