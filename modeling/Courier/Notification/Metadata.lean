import Courier.Keyed
import Courier.Number.Basic

/-!
# Metadata

A notification carries free-form scalars under string keys.

## Main definitions

* `Scalar`: a truth value, a number or a text.
* `Metadata`: scalars under keys.
-/

namespace Courier

/-- A value in a metadata map. -/
inductive Scalar where
  | bool (b : Bool)
  | number (n : Number)
  | text (s : String)
  deriving DecidableEq, Repr

/-- The text that a scalar is displayed as. -/
def Scalar.display : Scalar → String
  | .bool true => "true"
  | .bool false => "false"
  | .number n => n.render
  | .text s => s

/-- Scalars under string keys. -/
abbrev Metadata := Keyed Scalar

end Courier
