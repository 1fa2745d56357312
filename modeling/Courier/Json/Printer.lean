import Courier.Json.Quoted

/-!
# Writing JSON

A value is written without blanks, members in their order.
-/

namespace Courier

namespace Json

/-- The octets of some digits. -/
def digitBytes (ds : List Digit) : Bytes := ds.map fun d => UInt8.ofNat (48 + d.val)

/-- The octets of a number. -/
def Literal.render (l : Literal) : Bytes :=
  (if l.negative then [0x2D] else []) ++ digitBytes l.whole ++
    (if l.fraction.isEmpty then [] else 0x2E :: digitBytes l.fraction) ++
    (match l.exponent with
      | none => []
      | some (negative, ds) => 0x65 :: (if negative then 0x2D else 0x2B) :: digitBytes ds)

mutual

/-- The octets of a value. -/
def Value.render : Value → Bytes
  | .null => [0x6E, 0x75, 0x6C, 0x6C]
  | .bool true => [0x74, 0x72, 0x75, 0x65]
  | .bool false => [0x66, 0x61, 0x6C, 0x73, 0x65]
  | .number l => l.render
  | .string raw => 0x22 :: raw ++ [0x22]
  | .array [] => [0x5B, 0x5D]
  | .array (v :: rest) => 0x5B :: v.render ++ renderElements rest ++ [0x5D]
  | .object [] => [0x7B, 0x7D]
  | .object ((name, v) :: rest) =>
    0x7B :: 0x22 :: name ++ 0x22 :: 0x3A :: v.render ++ renderMembers rest ++ [0x7D]

/-- The further elements of an array, each after a comma. -/
def renderElements : List Value → Bytes
  | [] => []
  | v :: rest => 0x2C :: v.render ++ renderElements rest

/-- The further members of an object, each after a comma. -/
def renderMembers : List (Raw × Value) → Bytes
  | [] => []
  | (name, v) :: rest => 0x2C :: 0x22 :: name ++ 0x22 :: 0x3A :: v.render ++ renderMembers rest

end

end Json

end Courier
