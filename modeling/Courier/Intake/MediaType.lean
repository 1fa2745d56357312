import Courier.Text.Utf8

/-!
# Media types

The content type of a request is a type and a subtype, with an optional suffix after a plus sign,
followed by parameters.  A parameter is a name and a value, quoted or not; parameters are separated
by semicolons, in front of which only a quoted value may have blanks.

## Main definitions

* `MediaType.ofHeader?`: the media type in a header.
* `MediaType.isJson`: whether it announces JSON.
-/

namespace Courier

/-- A type, its subtype and the suffix of that, in lower case. -/
structure MediaType where
  type : String
  subtype : String
  suffix : Option String
  deriving DecidableEq, Repr

namespace MediaType

/-- The punctuation of tokens. -/
def tokenPunctuation : List Char := "!#$%&'*+-.^_`|~".toList

/-- Whether a character may stand in a token. -/
def isToken (c : Char) : Bool := c.isAlphanum || tokenPunctuation.contains c

/-- Where a reader of parameters stands. -/
inductive Place where
  /-- In front of a name. -/
  | start
  | name
  /-- In front of a value. -/
  | valueStart
  /-- In a value without quotes. -/
  | value
  /-- After an opening quote. -/
  | quoteStart
  /-- In a quoted value. -/
  | quoted
  /-- After a quoted value. -/
  | afterQuote
  deriving DecidableEq, Repr

/-- One character of the parameters.  A value in quotes has at least one character, which may be
anything but a control character. -/
def Place.step : Place → Char → Option Place
  | .start, ' ' => some .start
  | .start, c => if isToken c then some .name else none
  | .name, '=' => some .valueStart
  | .name, c => if isToken c then some .name else none
  | .valueStart, '"' => some .quoteStart
  | .valueStart, c => if isToken c then some .value else none
  | .value, ';' => some .start
  | .value, c => if isToken c then some .value else none
  | .quoteStart, c => if c.toNat < 32 ∨ c.toNat = 127 then none else some .quoted
  | .quoted, '"' => some .afterQuote
  | .quoted, c => if c.toNat < 32 ∨ c.toNat = 127 then none else some .quoted
  | .afterQuote, ';' => some .start
  | .afterQuote, ' ' => some .afterQuote
  | .afterQuote, _ => none

/-- Whether the parameters may end here. -/
def Place.mayEnd : Place → Bool
  | .start | .valueStart | .value | .afterQuote => true
  | .name | .quoteStart | .quoted => false

/-- Whether some characters are parameters. -/
def areParameters (cs : List Char) : Bool :=
  match cs.foldlM Place.step .start with
  | some place => place.mayEnd
  | none => false

/-- The part of a subtype in front of its last plus sign, and the part behind it.  A plus sign at
the very start does not count. -/
def splitSuffix (cs : List Char) : List Char × Option (List Char) :=
  let behind := cs.reverse.takeWhile (· ≠ '+')
  let front := cs.take (cs.length - behind.length - 1)
  if front.isEmpty then (cs, none) else (front, some behind.reverse)

/-- A string in lower case. -/
def lower (cs : List Char) : String := String.ofList (cs.map Char.toLower)

/-- The media type of some characters. -/
def ofChars? (cs : List Char) : Option MediaType :=
  let type := cs.takeWhile isToken
  match cs.dropWhile isToken with
  | '/' :: rest =>
    let subtype := rest.takeWhile isToken
    if type.isEmpty ∨ subtype.isEmpty then none
    else
      let (front, suffix) := splitSuffix subtype
      let mediaType := ⟨lower type, lower front, suffix.map lower⟩
      match rest.dropWhile isToken with
      | [] => some mediaType
      | c :: parameters =>
        if (c = ';' ∨ c = ' ') ∧ areParameters parameters then some mediaType else none
  | _ => none

/-- The media type in a header, which has to be printable. -/
def ofHeader? (header : String) : Option MediaType :=
  if header.toList.all fun c => 32 ≤ c.toNat && c.toNat < 127 || c == '\t' then
    ofChars? header.toList
  else none

/-- Whether a media type announces JSON. -/
def isJson (t : MediaType) : Bool :=
  t.type == "application" && (t.subtype == "json" || t.suffix == some "json")

end MediaType

end Courier
