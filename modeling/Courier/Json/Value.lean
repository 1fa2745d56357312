import Courier.Number.Decimal
import Courier.Text.Utf8

/-!
# JSON values as they are written

A value keeps the text of its strings as it stands between the quotes and the digits of its
numbers as they stand in the document.  What a string or a number means is asked only where a value is used, so
that a member nobody reads may hold a number of any size and text that is not even UTF-8.

## Main definitions

* `Json.Raw`: the octets between two quotes.
* `Json.Literal`: a number by its digits.
* `Json.Value`: a document.
-/

namespace Courier

namespace Json

/-- The octets between the quotes of a string, escapes included. -/
abbrev Raw := Bytes

/-- A number by its digits. -/
structure Literal where
  /-- Whether a minus sign stands in front. -/
  negative : Bool
  /-- The digits in front of the point. -/
  whole : List Digit
  /-- The digits after the point; empty if there is no point. -/
  fraction : List Digit
  /-- The exponent, if there is one: whether it has a minus sign, and its digits. -/
  exponent : Option (Bool × List Digit)
  deriving DecidableEq, Repr

/-- Whether the literal is written as an integer, without point and exponent. -/
def Literal.isInteger (l : Literal) : Bool := l.fraction.isEmpty && l.exponent.isNone

/-- The literal of a natural number. -/
def Literal.ofNat (n : Nat) : Literal := ⟨false, Decimal.ofNat n, [], none⟩

/-- The literal of an integer. -/
def Literal.ofInt (n : Int) : Literal := ⟨decide (n < 0), Decimal.ofNat n.natAbs, [], none⟩

/-- A JSON document. -/
inductive Value where
  | null
  | bool (b : Bool)
  | number (l : Literal)
  | string (raw : Raw)
  | array (elements : List Value)
  | object (members : List (Raw × Value))
  deriving Inhabited

end Json

end Courier
