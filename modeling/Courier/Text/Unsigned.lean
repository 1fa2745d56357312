import Courier.Number.Decimal

/-!
# Reading unsigned integers

An unsigned integer of a given width is written in decimal digits, with any number of leading zeros
and possibly a plus sign in front.  The text is read from the left, and the first fault decides: a
character that is no digit, or a digit with which the number no longer fits.

## Main definitions

* `Unsigned.Fault`: why a text is no such integer.
* `Unsigned.read`: the integer of a text.
-/

namespace Courier

namespace Unsigned

/-- Why a text is no integer of some width. -/
inductive Fault where
  | empty
  | digit
  | tooLarge
  deriving DecidableEq, Repr

/-- The fault in words. -/
def Fault.message : Fault → String
  | .empty => "cannot parse integer from empty string"
  | .digit => "invalid digit found in string"
  | .tooLarge => "number too large to fit in target type"

/-- Reads digits after a number, which has to stay below `bound`. -/
def readDigits (bound : Nat) (n : Nat) : List Char → Except Fault Nat
  | [] => .ok n
  | c :: rest =>
    match Decimal.digit? c with
    | none => .error .digit
    | some d =>
      if n * 10 + d.val < bound then readDigits bound (n * 10 + d.val) rest else .error .tooLarge

/-- The integer below `bound` that a text stands for. -/
def read (bound : Nat) (s : String) : Except Fault Nat :=
  match s.toList with
  | [] => .error .empty
  | ['+'] => .error .digit
  | '+' :: rest => readDigits bound 0 rest
  | cs => readDigits bound 0 cs

end Unsigned

end Courier
