import Courier.Provider.Web
import Courier.Text.Hex

/-!
# Addresses in a rehearsal

A rehearsal has a web of its own, in which a server has a name within ASCII or a number, and every
answer is UTF-8 unless a mark says otherwise.  An address is read as browsers read it, which forgives
much: either kind of slash separates, tabs and line ends are ignored, escapes in the name of a server
are resolved, and so are dot segments.  What may not stand in a request line is percent-encoded,
octet by octet in upper case; an escape that is already there stays as it is.

Names beyond ASCII need the tables of Unicode, and no server of a rehearsal has one.

## Main definitions

* `Rehearsal.Address.host?`: the host of a text.
* `Rehearsal.address?`: the address of a text.
* `Rehearsal.web`: the web of a rehearsal.
-/

namespace Courier

namespace Rehearsal

namespace Address

/-- The characters cut wherever one satisfies `p`. -/
def cutWhere (p : Char → Bool) : List Char → List (List Char)
  | [] => [[]]
  | c :: rest =>
    match cutWhere p rest with
    | [] => [[]]
    | first :: others => if p c then [] :: first :: others else (c :: first) :: others

/-- The number that some digits stand for; no digits stand for zero. -/
def number? (radix : Nat) (cs : List Char) : Option Nat :=
  cs.foldlM (fun n c =>
    match Hex.digit? c with
    | some d => if d.val < radix then some (n * radix + d.val) else none
    | none => none) 0

/-! ### Hosts -/

/-- The octets of some characters, with the escapes among them resolved. -/
def percentDecode : List Char → Bytes
  | '%' :: a :: b :: rest =>
    match Hex.digit? a, Hex.digit? b with
    | some high, some low => Hex.toByte high low :: percentDecode rest
    | _, _ => 0x25 :: percentDecode (a :: b :: rest)
  | c :: rest => Utf8.encodeChar c ++ percentDecode rest
  | [] => []

/-- Whether a character may stand in no host. -/
def isForbidden (c : Char) : Bool := c.toNat ≤ 0x20 || "#%/:<>?@[\\]^|\x7f".toList.contains c

/-- The number that a part of a numeric host stands for: octal behind a zero, hexadecimal behind a
zero and an `x`, and decimal otherwise. -/
def part? : List Char → Option Nat
  | [] => none
  | '0' :: c :: rest => if c = 'x' ∨ c = 'X' then number? 16 rest else number? 8 (c :: rest)
  | cs => number? 10 cs

/-- The last octets of a number, the highest one first. -/
def lastOctets (count n : Nat) : List Nat :=
  (List.range count).reverse.map fun i => n / Nat.pow 256 i % 256

/-- The four octets of a numeric host, of which the last part fills what the others leave. -/
def octets? (parts : List (List Char)) : Option (List Nat) :=
  (parts.mapM part?).bind fun numbers =>
    match numbers.reverse with
    | [] => none
    | last :: front =>
      if 3 < front.length ∨ front.any (255 < ·) ∨ Nat.pow 256 (4 - front.length) ≤ last then none
      else some (front.reverse ++ lastOctets (4 - front.length) last)

/-- The parts of a host, where one dot at its end counts for nothing. -/
def partsOf (cs : List Char) : List (List Char) :=
  match (cutWhere (· == '.') cs).reverse with
  | [] :: part :: parts => (part :: parts).reverse
  | parts => parts.reverse

/-- Whether a host of some parts has to be numeric. -/
def isNumeric (parts : List (List Char)) : Bool :=
  match parts.getLast? with
  | none => false
  | some last => (!last.isEmpty && last.all Char.isDigit) || (part? last).isSome

/-- The host that a name within ASCII or a number stands for. -/
def name? (cs : List Char) : Option String :=
  let octets := percentDecode cs
  let name := octets.map fun b => (Char.ofNat b.toNat).toLower
  let parts := partsOf name
  if octets.isEmpty ∨ octets.any (0x80 ≤ ·) ∨ name.any isForbidden ∨
      parts.any fun part => "xn--".toList.isPrefixOf part then none
  else if isNumeric parts then
    (octets? parts).map fun ns => ".".intercalate (ns.map fun n => String.ofList (Nat.toDigits 10 n))
  else some (String.ofList name)

/-- A group of a long numeric host. -/
def group? (cs : List Char) : Option Nat :=
  if cs.isEmpty ∨ 4 < cs.length then none else number? 16 cs

/-- An octet in decimal digits, without a zero in front. -/
def octet? (cs : List Char) : Option Nat :=
  if cs.isEmpty ∨ (1 < cs.length ∧ cs.head? = some '0') then none
  else (number? 10 cs).filter (· < 256)

/-- The groups of some parts, of which the last may be four octets. -/
def groups? : List (List Char) → Option (List Nat)
  | [] => some []
  | [last] =>
    if last.contains '.' then
      match (cutWhere (· == '.') last).mapM octet? with
      | some [a, b, c, d] => some [a * 256 + b, c * 256 + d]
      | _ => none
    else (group? last).map fun g => [g]
  | part :: rest =>
    match group? part, groups? rest with
    | some g, some gs => some (g :: gs)
    | _, _ => none

/-- The groups of some characters. -/
def groupsOf? (cs : List Char) : Option (List Nat) :=
  if cs.isEmpty then some [] else groups? (cutWhere (· == ':') cs)

/-- The characters in front of the first two colons in a row, and those behind them. -/
def cutAtGap : List Char → Option (List Char × List Char)
  | ':' :: ':' :: rest => some ([], rest)
  | c :: rest => (cutAtGap rest).map fun (front, back) => (c :: front, back)
  | [] => none

/-- The eight groups of a long numeric host; two colons in a row stand for as many zeros as there
are missing. -/
def longHost? (cs : List Char) : Option (List Nat) :=
  match cutAtGap cs with
  | none => (groupsOf? cs).filter (·.length = 8)
  | some (front, back) =>
    if front.contains '.' then none
    else
      match groupsOf? front, groupsOf? back with
      | some front, some back =>
        if front.length + back.length < 8 then
          some (front ++ List.replicate (8 - front.length - back.length) 0 ++ back)
        else none
      | _, _ => none

/-- Groups with colons between them. -/
def joinGroups (gs : List Nat) : String :=
  ":".intercalate (gs.map fun g => String.ofList (Nat.toDigits 16 g))

/-- A long numeric host as it is written, with the first of its longest rows of zeros left out. -/
def writeGroups (gs : List Nat) : String :=
  let zeros := fun i => ((gs.drop i).takeWhile (· == 0)).length
  let gap := (List.range gs.length).foldl (fun best i => if zeros best < zeros i then i else best) 0
  if zeros gap < 2 then joinGroups gs
  else joinGroups (gs.take gap) ++ "::" ++ joinGroups (gs.drop (gap + zeros gap))

/-- The host of a text: a name, a number, or a long number in brackets. -/
def host? (cs : List Char) : Option String :=
  match cs with
  | '[' :: rest =>
    if rest.getLast? = some ']' then
      (longHost? rest.dropLast).map fun gs => "[" ++ writeGroups gs ++ "]"
    else none
  | cs => name? cs

/-! ### Servers -/

/-- Either kind of slash. -/
def isSlash (c : Char) : Bool := c == '/' || c == '\\'

/-- Whether a character ends the name of the server. -/
def endsServer (c : Char) : Bool := isSlash c || c == '?' || c == '#'

/-- The port behind a host; where there are no digits, it is the usual one. -/
def port? (usual : Nat) : List Char → Option Nat
  | [] | [':'] => some usual
  | ':' :: digits => if digits.all Char.isDigit then (number? 10 digits).filter (· < 65536) else none
  | _ => none

/-- The part of some characters behind the last `c`, or all of them. -/
def afterLast (c : Char) (cs : List Char) : List Char := (cs.reverse.takeWhile (· ≠ c)).reverse

/-- A host and what stands behind it. -/
def cutHost (cs : List Char) : List Char × List Char :=
  if cs.head? = some '[' then
    let front := cs.takeWhile (· ≠ ']')
    (front ++ (cs.drop front.length).take 1, cs.drop (front.length + 1))
  else (cs.takeWhile (· ≠ ':'), cs.dropWhile (· ≠ ':'))

/-- The server of some characters.  A name and a password in front of an at sign are no part of
it. -/
def server? (secure : Bool) (cs : List Char) : Option Server :=
  let (front, behind) := cutHost (afterLast '@' cs)
  match host? front, port? (if secure then 443 else 80) behind with
  | some host, some port => some ⟨secure, host, port⟩
  | _, _ => none

/-! ### Paths and queries -/

/-- A character in percent-encoding. -/
def percentEncode (c : Char) : List Char :=
  (Utf8.encodeChar c).flatMap fun b =>
    ['%', Hex.upper (Hex.ofByte b).1, Hex.upper (Hex.ofByte b).2]

/-- Whether a character is a control character, a blank or beyond ASCII. -/
def isUnprintable (c : Char) : Bool := c.toNat ≤ 0x20 || 0x7F ≤ c.toNat

/-- Whether a character is encoded in a path. -/
def encodedInPath (c : Char) : Bool := isUnprintable c || "\"#<>?`\x7b\x7d".toList.contains c

/-- Whether a character is encoded in a query. -/
def encodedInQuery (c : Char) : Bool := isUnprintable c || "\"#<>'".toList.contains c

/-- The characters with those that have to be encoded. -/
def encodeWhere (p : Char → Bool) (cs : List Char) : String :=
  String.ofList (cs.flatMap fun c => if p c then percentEncode c else [c])

/-- A segment with encoded dots as dots. -/
def plainDots : List Char → List Char
  | '%' :: '2' :: c :: rest =>
    if c = 'e' ∨ c = 'E' then '.' :: plainDots rest else '%' :: '2' :: plainDots (c :: rest)
  | c :: rest => c :: plainDots rest
  | [] => []

/-- The segments of a path with its dot segments resolved, after the segments `before` (last one
first). -/
def resolve (before : List String) : List (List Char) → List String
  | [] => before.reverse
  | segment :: rest =>
    let dots := plainDots segment
    if dots = ['.', '.'] then
      let before := before.drop 1
      resolve (if rest.isEmpty then "" :: before else before) rest
    else if dots = ['.'] then resolve (if rest.isEmpty then "" :: before else before) rest
    else resolve (encodeWhere encodedInPath segment :: before) rest

/-- The characters without blanks and control characters at either end, and without tabs and line
ends anywhere. -/
def tidy (cs : List Char) : List Char :=
  let isEdge := fun c : Char => c.toNat ≤ 0x20
  ((cs.dropWhile isEdge).reverse.dropWhile isEdge).reverse.filter fun c =>
    c ≠ '\t' && c ≠ '\n' && c ≠ '\r'

/-- Whether the text behind the scheme is read as one of a secure server; `none` for schemes of
other services. -/
def secure? (scheme : List Char) : Option Bool :=
  let name := scheme.map Char.toLower
  if name = "http".toList then some false
  else if name = "https".toList then some true
  else none

end Address

open Address in
/-- The address of a text. -/
def address? (s : String) : Option Url :=
  let cs := tidy s.toList
  match secure? (cs.takeWhile (· ≠ ':')) with
  | none => none
  | some secure =>
    let rest := ((cs.dropWhile (· ≠ ':')).drop 1).dropWhile isSlash
    match server? secure (rest.takeWhile fun c => !endsServer c) with
    | none => none
    | some server =>
      let rest := (rest.dropWhile fun c => !endsServer c).takeWhile (· ≠ '#')
      let path := (rest.takeWhile (· ≠ '?')).drop 1
      let query := match rest.dropWhile (· ≠ '?') with
        | [] => none
        | _ :: query => some (encodeWhere encodedInQuery query)
      some ⟨server, resolve [] (cutWhere isSlash path), query⟩

/-- The web of a rehearsal, whose answers name no character set. -/
def web : Web where
  address? := address?
  text content := Text.ofBytes content.octets

end Rehearsal

end Courier
