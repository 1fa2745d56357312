import Courier.Json.Value
import Courier.Text.Hex

/-!
# Quoted text

Inside quotes a character may stand for itself or be escaped.  Text is written with the two-letter
escapes where there is one, `\u00xx` for the other control characters, and everything else as it
is.  Reading undoes every escape; a surrogate counts only as half of a pair.

## Main definitions

* `Json.quote`: the text between the quotes for a string.
* `Json.unescape?`: the octets of a quoted text without its escapes.
* `Json.unquote?`: the string of a quoted text.
-/

namespace Courier

namespace Json

/-- The letter that follows the backslash in the short escape of an octet. -/
def shortEscape? (n : Nat) : Option UInt8 :=
  if n = 0x22 then some 0x22
  else if n = 0x5C then some 0x5C
  else if n = 0x08 then some 0x62
  else if n = 0x0C then some 0x66
  else if n = 0x0A then some 0x6E
  else if n = 0x0D then some 0x72
  else if n = 0x09 then some 0x74
  else none

/-- One character inside quotes. -/
def quoteChar (c : Char) : Raw :=
  match shortEscape? c.toNat with
  | some letter => [0x5C, letter]
  | none =>
    if c.toNat < 0x20 then
      let (high, low) := Hex.ofByte (UInt8.ofNat c.toNat)
      [0x5C, 0x75, 0x30, 0x30] ++ Utf8.encode [Hex.lower high, Hex.lower low]
    else Utf8.encodeChar c

/-- Characters inside quotes. -/
def quoteChars (cs : List Char) : Raw := cs.flatMap quoteChar

/-- A string inside quotes. -/
def quote (s : String) : Raw := quoteChars s.toList

/-- The octet that a letter after a backslash stands for. -/
def escaped? (letter : UInt8) : Option UInt8 :=
  match letter.toNat with
  | 0x22 => some 0x22
  | 0x5C => some 0x5C
  | 0x2F => some 0x2F
  | 0x62 => some 0x08
  | 0x66 => some 0x0C
  | 0x6E => some 0x0A
  | 0x72 => some 0x0D
  | 0x74 => some 0x09
  | _ => none

/-- The hexadecimal digit that an octet stands for. -/
def hexDigit? (b : UInt8) : Option Nibble :=
  if b.toNat < 0x80 then Hex.digit? (Char.ofNat b.toNat) else none

/-- The code unit of four hexadecimal digits. -/
def unit? (a b c d : UInt8) : Option Nat := do
  let a ← hexDigit? a
  let b ← hexDigit? b
  let c ← hexDigit? c
  let d ← hexDigit? d
  return ((a.val * 16 + b.val) * 16 + c.val) * 16 + d.val

/-- Whether a code unit is the first half of a surrogate pair. -/
def isLead (u : Nat) : Bool := 0xD800 ≤ u && u < 0xDC00

/-- Whether a code unit is the second half of a surrogate pair. -/
def isTrail (u : Nat) : Bool := 0xDC00 ≤ u && u < 0xE000

/-- Undoes the escapes of a quoted text, in front of which the octets `done` (last one first) have
been read. -/
def unescapeFrom (done : Bytes) : Raw → Option Bytes
  | [] => some done.reverse
  | 0x5C :: 0x75 :: a :: b :: c :: d :: rest =>
    match unit? a b c d with
    | none => none
    | some u =>
      if isLead u then
        match rest with
        | 0x5C :: 0x75 :: a :: b :: c :: d :: rest =>
          match unit? a b c d with
          | none => none
          | some t =>
            if isTrail t then
              let n := 0x10000 + (u - 0xD800) * 0x400 + (t - 0xDC00)
              unescapeFrom ((Utf8.encodeChar (Char.ofNat n)).reverse ++ done) rest
            else none
        | _ => none
      else if isTrail u then none
      else unescapeFrom ((Utf8.encodeChar (Char.ofNat u)).reverse ++ done) rest
  | 0x5C :: letter :: rest =>
    match escaped? letter with
    | none => none
    | some b => unescapeFrom (b :: done) rest
  | [0x5C] => none
  | b :: rest => unescapeFrom (b :: done) rest

/-- The octets of a quoted text without its escapes, or `none` if an escape is wrong or a surrogate
stands alone. -/
def unescape? (raw : Raw) : Option Bytes := unescapeFrom [] raw

/-- The characters of a quoted text. -/
def unquoteChars? (raw : Raw) : Option (List Char) := (unescape? raw).bind Utf8.decode?

/-- The string of a quoted text. -/
def unquote? (raw : Raw) : Option String := (unquoteChars? raw).map String.ofList

/-- A string as a JSON value. -/
def Value.text (s : String) : Value := .string (quote s)

/-- The string that a JSON value is, if it is one. -/
def Value.text? : Value → Option String
  | .string raw => unquote? raw
  | _ => none

/-- An object from its members, the names as plain strings. -/
def Value.record (members : List (String × Value)) : Value :=
  .object (members.map fun (name, v) => (quote name, v))

/-- A natural number as a JSON value. -/
def Value.nat (n : Nat) : Value := .number (.ofNat n)

/-- An integer as a JSON value. -/
def Value.int (n : Int) : Value := .number (.ofInt n)

end Json

end Courier
