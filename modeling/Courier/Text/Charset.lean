import Courier.Text.Utf8

/-!
# Text of unknown encoding

A text that comes from elsewhere begins with a mark that tells its encoding, or it is UTF-8.
Damaged stretches are replaced, never refused.

## Main definitions

* `Text.ofBytes`: the text of some octets.
-/

namespace Courier

namespace Text

/-- The 16-bit units of some octets; the flag says whether the high octet comes first.  A single
octet at the end is `none`. -/
def units (highFirst : Bool) : Bytes → List (Option Nat)
  | [] => []
  | [_] => [none]
  | a :: b :: rest =>
    some (if highFirst then a.toNat * 256 + b.toNat else b.toNat * 256 + a.toNat) ::
      units highFirst rest

/-- The character of a 16-bit unit; half of a pair is damage. -/
def ofUnit (unit : Nat) : Char :=
  if 0xD800 ≤ unit ∧ unit < 0xE000 then Utf8.replacement else Char.ofNat unit

/-- The characters of 16-bit units.  What the end cuts short is one damage, whether it is half of a
pair, half of a unit or both. -/
def ofUnits : List (Option Nat) → List Char
  | [] => []
  | none :: rest => Utf8.replacement :: ofUnits rest
  | [some unit] => [ofUnit unit]
  | some lead :: none :: rest =>
    if 0xD800 ≤ lead ∧ lead < 0xDC00 then Utf8.replacement :: ofUnits rest
    else ofUnit lead :: Utf8.replacement :: ofUnits rest
  | some lead :: some trail :: rest =>
    if 0xD800 ≤ lead ∧ lead < 0xDC00 ∧ 0xDC00 ≤ trail ∧ trail < 0xE000 then
      Char.ofNat (0x10000 + (lead - 0xD800) * 0x400 + (trail - 0xDC00)) :: ofUnits rest
    else ofUnit lead :: ofUnits (some trail :: rest)

/-- The characters of some octets. -/
def charsOfBytes : Bytes → List Char
  | 0xEF :: 0xBB :: 0xBF :: rest => Utf8.decodeLossy rest
  | 0xFE :: 0xFF :: rest => ofUnits (units true rest)
  | 0xFF :: 0xFE :: rest => ofUnits (units false rest)
  | bytes => Utf8.decodeLossy bytes

/-- The text of some octets. -/
def ofBytes (bytes : Bytes) : String := String.ofList (charsOfBytes bytes)

end Text

end Courier
