import Courier.Text.Utf8

/-!
# Hexadecimal digits

One digit is a number below sixteen.  Both cases are read and lower case is written, except where
a caller asks for upper case.
-/

namespace Courier

/-- A hexadecimal digit. -/
abbrev Nibble := Fin 16

namespace Hex

/-- The digits in lower case. -/
def lowerDigits : Vector Char 16 :=
  #v['0', '1', '2', '3', '4', '5', '6', '7', '8', '9', 'a', 'b', 'c', 'd', 'e', 'f']

/-- A digit as a lower-case character. -/
def lower (d : Nibble) : Char := lowerDigits[d]

/-- A digit as an upper-case character. -/
def upper (d : Nibble) : Char := (lower d).toUpper

/-- The digit that a character stands for, in either case. -/
def digit? (c : Char) : Option Nibble :=
  let n := c.toNat
  if 48 ≤ n ∧ n ≤ 57 then some (Fin.ofNat 16 (n - 48))
  else if 97 ≤ n ∧ n ≤ 102 then some (Fin.ofNat 16 (n - 87))
  else if 65 ≤ n ∧ n ≤ 70 then some (Fin.ofNat 16 (n - 55))
  else none

/-- A written digit reads back. -/
theorem digit?_lower : ∀ d : Nibble, digit? (lower d) = some d := by decide

/-- The two digits of an octet, the higher one first. -/
def ofByte (b : UInt8) : Nibble × Nibble :=
  (Fin.ofNat 16 (b.toNat / 16), Fin.ofNat 16 (b.toNat % 16))

/-- The octet of two digits. -/
def toByte (high low : Nibble) : UInt8 := UInt8.ofNat (high.val * 16 + low.val)

/-- The octets as lower-case digits. -/
def encode (bytes : Bytes) : String :=
  String.ofList <| bytes.flatMap fun b => [lower (ofByte b).1, lower (ofByte b).2]

/-- The octets that some digits stand for, after the octets `done` (last one first). -/
def decodeFrom (done : Bytes) : List Char → Option Bytes
  | [] => some done.reverse
  | [_] => none
  | a :: b :: rest =>
    match digit? a, digit? b with
    | some high, some low => decodeFrom (toByte high low :: done) rest
    | _, _ => none

/-- The octets that a string of digits stands for. -/
def decode? (s : String) : Option Bytes := decodeFrom [] s.toList

end Hex

end Courier
