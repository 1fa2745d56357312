/-!
# UTF-8

Bytes are lists of octets and text is a list of characters.  `Utf8.encode` writes characters and
`Utf8.step` reads one octet at a time, so that a truncated or misplaced octet is noticed exactly
where it makes the text impossible.

## Main definitions

* `Utf8.encode`: the octets of a text.
* `Utf8.decode?`: the text of some octets, refusing overlong forms, surrogates and anything above
  the last code point.
* `Utf8.decodeLossy`: the text of some octets, each maximal damaged stretch replaced by `U+FFFD`.
-/

namespace Courier

/-- A sequence of octets. -/
abbrev Bytes := List UInt8

namespace Utf8

/-- The octets of one character. -/
def encodeChar (c : Char) : Bytes :=
  let n := c.toNat
  if n < 0x80 then [UInt8.ofNat n]
  else if n < 0x800 then [UInt8.ofNat (0xC0 + n / 64), UInt8.ofNat (0x80 + n % 64)]
  else if n < 0x10000 then
    [UInt8.ofNat (0xE0 + n / 4096), UInt8.ofNat (0x80 + n / 64 % 64), UInt8.ofNat (0x80 + n % 64)]
  else
    [UInt8.ofNat (0xF0 + n / 262144), UInt8.ofNat (0x80 + n / 4096 % 64),
      UInt8.ofNat (0x80 + n / 64 % 64), UInt8.ofNat (0x80 + n % 64)]

/-- The octets of a text. -/
def encode (cs : List Char) : Bytes := cs.flatMap encodeChar

/-- The octets of a string. -/
def ofString (s : String) : Bytes := encode s.toList

/-- Where a reader stands between two octets. -/
inductive State where
  /-- Between characters. -/
  | start
  /-- Inside a character: the value read so far, the least and greatest octet that may come
  next, and how many further octets follow that one. -/
  | inside (value low high owed : Nat)
  deriving Repr, DecidableEq

/-- What one octet leads to. -/
inductive Step where
  /-- The octet completes this character. -/
  | char (c : Char)
  /-- The character goes on. -/
  | more (state : State)
  /-- No text has this octet here. -/
  | refused

/-- The first octet of a character. -/
def first (b : Nat) : Step :=
  if b < 0x80 then .char (Char.ofNat b)
  else if b < 0xC2 then .refused
  else if b < 0xE0 then .more (.inside (b - 0xC0) 0x80 0xBF 0)
  else if b = 0xE0 then .more (.inside 0 0xA0 0xBF 1)
  else if b = 0xED then .more (.inside 13 0x80 0x9F 1)
  else if b < 0xF0 then .more (.inside (b - 0xE0) 0x80 0xBF 1)
  else if b = 0xF0 then .more (.inside 0 0x90 0xBF 2)
  else if b < 0xF4 then .more (.inside (b - 0xF0) 0x80 0xBF 2)
  else if b = 0xF4 then .more (.inside 4 0x80 0x8F 2)
  else .refused

/-- One octet.  Only the octet after the first is bounded more narrowly than `80..BF`. -/
def step : State → UInt8 → Step
  | .start, b => first b.toNat
  | .inside value low high owed, b =>
    if low ≤ b.toNat ∧ b.toNat ≤ high then
      let value := value * 64 + (b.toNat - 0x80)
      match owed with
      | 0 => .char (Char.ofNat value)
      | owed + 1 => .more (.inside value 0x80 0xBF owed)
    else .refused

/-- Reads the octets from a state on, in front of which the characters `done` (last one first)
have been read. -/
def decodeFrom : State → List Char → Bytes → Option (List Char)
  | .start, done, [] => some done.reverse
  | .inside .., _, [] => none
  | state, done, b :: rest =>
    match step state b with
    | .char c => decodeFrom .start (c :: done) rest
    | .more state => decodeFrom state done rest
    | .refused => none

/-- The text of some octets, if they are well formed. -/
def decode? (bytes : Bytes) : Option (List Char) := decodeFrom .start [] bytes

/-- The string of some octets, if they are well formed. -/
def string? (bytes : Bytes) : Option String := (decode? bytes).map String.ofList

/-- The mark that stands for damaged octets. -/
def replacement : Char := Char.ofNat 0xFFFD

/-- Reads all octets.  An octet that cannot continue a character ends it as damaged and is read
again as the first octet of the next. -/
def decodeLossyFrom : State → List Char → Bytes → List Char
  | .start, done, [] => done.reverse
  | .inside .., done, [] => (replacement :: done).reverse
  | state, done, b :: rest =>
    match step state b with
    | .char c => decodeLossyFrom .start (c :: done) rest
    | .more state => decodeLossyFrom state done rest
    | .refused =>
      match state with
      | .start => decodeLossyFrom .start (replacement :: done) rest
      | .inside .. =>
        match first b.toNat with
        | .char c => decodeLossyFrom .start (c :: replacement :: done) rest
        | .more state => decodeLossyFrom state (replacement :: done) rest
        | .refused => decodeLossyFrom .start (replacement :: replacement :: done) rest

/-- The text of some octets, each maximal damaged stretch replaced by one mark. -/
def decodeLossy (bytes : Bytes) : List Char := decodeLossyFrom .start [] bytes

end Utf8

end Courier
