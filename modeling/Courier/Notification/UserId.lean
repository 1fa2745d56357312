import Courier.Text.Hex

/-!
# User ids

A user is known by 128 bits, held as 32 hexadecimal digits.  They are written in lower case in
groups of 8, 4, 4, 4 and 12 with hyphens between, and read in either case, also without the
hyphens, in braces, or as a URN.

## Main definitions

* `UserId`: the digits.
* `UserId.render`, `UserId.parse?`.
-/

namespace Courier

/-- A user id of 32 hexadecimal digits. -/
structure UserId where
  /-- The digits, the highest one first. -/
  digits : List Nibble
  /-- There are 32 of them. -/
  length_eq : digits.length = 32
  deriving DecidableEq, Repr

namespace UserId

/-- Puts a hyphen after each of the groups of the given lengths. -/
def hyphenate (groups : List Nat) (cs : List Char) : List Char :=
  match groups with
  | [] => cs
  | n :: rest => cs.take n ++ '-' :: hyphenate rest (cs.drop n)

/-- The lengths of the groups in front of the last. -/
def groups : List Nat := [8, 4, 4, 4]

/-- The characters of a user id. -/
def chars (u : UserId) : List Char := hyphenate groups (u.digits.map Hex.lower)

/-- A user id as text. -/
def render (u : UserId) : String := String.ofList u.chars

/-- Takes the hyphen out after each of the groups of the given lengths. -/
def unhyphenate? (groups : List Nat) (cs : List Char) : Option (List Char) :=
  match groups with
  | [] => some cs
  | n :: rest =>
    match cs.drop n with
    | '-' :: later => (unhyphenate? rest later).map (cs.take n ++ ·)
    | _ => none

/-- The user id of 32 digits. -/
def ofDigits? (cs : List Char) : Option UserId :=
  match cs.mapM Hex.digit? with
  | some ds => if h : ds.length = 32 then some ⟨ds, h⟩ else none
  | none => none

/-- The user id of digits in hyphenated groups. -/
def ofHyphenated? (cs : List Char) : Option UserId := (unhyphenate? groups cs).bind ofDigits?

/-- What stands in front of the digits of a URN, in any case. -/
def urnPrefix : List Char := "urn:uuid:".toList

/-- The user id of some characters. -/
def ofChars? (cs : List Char) : Option UserId :=
  match cs.length with
  | 32 => ofDigits? cs
  | 36 => ofHyphenated? cs
  | 38 =>
    match cs with
    | '{' :: rest => if rest.getLast? = some '}' then ofHyphenated? rest.dropLast else none
    | _ => none
  | 45 =>
    if (cs.take 9).map Char.toLower = urnPrefix then ofHyphenated? (cs.drop 9) else none
  | _ => none

/-- The user id of a string. -/
def parse? (s : String) : Option UserId := ofChars? s.toList

end UserId

end Courier
