import Courier.Json.Quoted

/-!
# Reading JSON

The reader takes one octet at a time.  Its state holds the value in progress and, innermost first,
the arrays and objects that are still open, so that a document may be nested to any depth.  The
grammar is that of RFC 8259, with its four blanks and nothing in front of or behind the value but
blanks; whether the text of a string is UTF-8 and its surrogates come in pairs is left to
`Json.unquote?`.

## Main definitions

* `Json.State`, `Json.step`: the reader and one octet.
* `Json.read?`: the value of a document.
-/

namespace Courier

namespace Json

/-- An array or object that is still open, with the elements or members read so far, last one
first. -/
inductive Frame where
  | array (done : List Value)
  | object (done : List (Raw × Value)) (name : Raw)

/-- What a string in progress will be. -/
inductive Role where
  | value
  /-- The name of a further member of an object with these members. -/
  | name (done : List (Raw × Value))

/-- Where a string stands after a backslash. -/
inductive Escape where
  /-- No escape is open. -/
  | none
  /-- The backslash has been read. -/
  | letter
  /-- A `\u` escape that lacks `missing + 1` digits. -/
  | digits (missing : Nat)

/-- Where a number stands. -/
inductive Part where
  /-- After the minus sign. -/
  | sign
  /-- After a leading zero. -/
  | zero
  /-- In the digits in front of the point. -/
  | whole
  /-- After the point. -/
  | point
  /-- In the digits after the point. -/
  | fraction
  /-- After the `e`. -/
  | power
  /-- After the sign of the exponent. -/
  | powerSign
  /-- In the digits of the exponent. -/
  | powerDigits

/-- A number in progress, its digits last one first. -/
structure Partial where
  negative : Bool
  whole : List Digit
  fraction : List Digit
  exponent : Option (Bool × List Digit)
  part : Part

/-- The number so far, if it may end here. -/
def Partial.finish? (n : Partial) : Option Literal :=
  let literal : Literal :=
    ⟨n.negative, n.whole.reverse, n.fraction.reverse,
      n.exponent.map fun (negative, ds) => (negative, ds.reverse)⟩
  match n.part with
  | .zero | .whole | .fraction | .powerDigits => some literal
  | .sign | .point | .power | .powerSign => none

/-- The digit that an octet stands for. -/
def digit? (b : UInt8) : Option Digit :=
  if h : 48 ≤ b.toNat ∧ b.toNat < 58 then some ⟨b.toNat - 48, by omega⟩ else none

/-- The number with one more octet, if that belongs to it. -/
def Partial.push? (n : Partial) (b : UInt8) : Option Partial :=
  match n.part, digit? b with
  | .sign, some d =>
    some { n with whole := [d], part := if d.val = 0 then .zero else .whole }
  | .whole, some d => some { n with whole := d :: n.whole }
  | .point, some d | .fraction, some d =>
    some { n with fraction := d :: n.fraction, part := .fraction }
  | .power, some d | .powerSign, some d | .powerDigits, some d =>
    let (negative, ds) := n.exponent.getD (false, [])
    some { n with exponent := some (negative, d :: ds), part := .powerDigits }
  | .zero, none | .whole, none | .fraction, none =>
    if b = 0x2E then if n.part matches .fraction then none else some { n with part := .point }
    else if b = 0x65 ∨ b = 0x45 then some { n with exponent := some (false, []), part := .power }
    else none
  | .power, none =>
    if b = 0x2B then some { n with exponent := some (false, []), part := .powerSign }
    else if b = 0x2D then some { n with exponent := some (true, []), part := .powerSign }
    else none
  | _, _ => none

/-- Where a reader stands between two octets. -/
inductive State where
  /-- A value is expected. -/
  | value (frames : List Frame)
  /-- The first element of an array, or its end, is expected. -/
  | firstElement (frames : List Frame)
  /-- The first name of an object, or its end, is expected. -/
  | firstName (frames : List Frame)
  /-- A further name of an object is expected. -/
  | nextName (done : List (Raw × Value)) (frames : List Frame)
  /-- The colon after a name is expected. -/
  | colon (name : Raw) (done : List (Raw × Value)) (frames : List Frame)
  /-- Inside a string, its octets last one first. -/
  | string (raw : Raw) (escape : Escape) (role : Role) (frames : List Frame)
  /-- Inside a number. -/
  | number (n : Partial) (frames : List Frame)
  /-- Inside `null`, `true` or `false`, with the octets that must follow. -/
  | word (rest : Bytes) (v : Value) (frames : List Frame)
  /-- A value has ended. -/
  | after (v : Value) (frames : List Frame)

/-- The four blanks of the format. -/
def isSpace (b : UInt8) : Bool := b == 0x20 || b == 0x0A || b == 0x0D || b == 0x09

/-- The first octet of a value. -/
def begin (frames : List Frame) (b : UInt8) : Option State :=
  match b.toNat with
  | 0x22 => some (.string [] .none .value frames)
  | 0x2D => some (.number ⟨true, [], [], none, .sign⟩ frames)
  | 0x5B => some (.firstElement frames)
  | 0x7B => some (.firstName frames)
  | 0x6E => some (.word [0x75, 0x6C, 0x6C] .null frames)
  | 0x74 => some (.word [0x72, 0x75, 0x65] (.bool true) frames)
  | 0x66 => some (.word [0x61, 0x6C, 0x73, 0x65] (.bool false) frames)
  | _ => ((⟨false, [], [], none, .sign⟩ : Partial).push? b).map (.number · frames)

/-- An octet after the end of a value. -/
def close (v : Value) (frames : List Frame) (b : UInt8) : Option State :=
  if isSpace b then some (.after v frames)
  else
    match frames, b.toNat with
    | .array done :: outer, 0x2C => some (.value (.array (v :: done) :: outer))
    | .array done :: outer, 0x5D => some (.after (.array (v :: done).reverse) outer)
    | .object done name :: outer, 0x2C => some (.nextName ((name, v) :: done) outer)
    | .object done name :: outer, 0x7D =>
      some (.after (.object ((name, v) :: done).reverse) outer)
    | _, _ => none

/-- An octet inside a string. -/
def inString (raw : Raw) (escape : Escape) (role : Role) (frames : List Frame) (b : UInt8) :
    Option State :=
  match escape with
  | .none =>
    if b = 0x22 then
      match role with
      | .value => some (.after (.string raw.reverse) frames)
      | .name done => some (.colon raw.reverse done frames)
    else if b = 0x5C then some (.string (b :: raw) .letter role frames)
    else if b.toNat < 0x20 then none
    else some (.string (b :: raw) .none role frames)
  | .letter =>
    if b = 0x75 then some (.string (b :: raw) (.digits 3) role frames)
    else if (escaped? b).isSome then some (.string (b :: raw) .none role frames)
    else none
  | .digits missing =>
    if (hexDigit? b).isSome then
      match missing with
      | 0 => some (.string (b :: raw) .none role frames)
      | missing + 1 => some (.string (b :: raw) (.digits missing) role frames)
    else none

/-- One octet. -/
def step : State → UInt8 → Option State
  | .value frames, b => if isSpace b then some (.value frames) else begin frames b
  | .firstElement frames, b =>
    if isSpace b then some (.firstElement frames)
    else if b = 0x5D then some (.after (.array []) frames)
    else begin (.array [] :: frames) b
  | .firstName frames, b =>
    if isSpace b then some (.firstName frames)
    else if b = 0x7D then some (.after (.object []) frames)
    else if b = 0x22 then some (.string [] .none (.name []) frames)
    else none
  | .nextName done frames, b =>
    if isSpace b then some (.nextName done frames)
    else if b = 0x22 then some (.string [] .none (.name done) frames)
    else none
  | .colon name done frames, b =>
    if isSpace b then some (.colon name done frames)
    else if b = 0x3A then some (.value (.object done name :: frames))
    else none
  | .string raw escape role frames, b => inString raw escape role frames b
  | .number n frames, b =>
    match n.push? b with
    | some n => some (.number n frames)
    | none => n.finish?.bind fun l => close (.number l) frames b
  | .word rest v frames, b =>
    match rest with
    | [] => close v frames b
    | c :: rest =>
      if b = c then some (if rest.isEmpty then .after v frames else .word rest v frames) else none
  | .after v frames, b => close v frames b

/-- The value, if the document may end here. -/
def State.finish? : State → Option Value
  | .after v [] => some v
  | .number n [] => n.finish?.map .number
  | _ => none

/-- Reads octets from a state on. -/
def run : State → Bytes → Option State
  | s, [] => some s
  | s, b :: rest =>
    match step s b with
    | some s => run s rest
    | none => none

/-- The value of a document. -/
def read? (bytes : Bytes) : Option Value := (run (.value []) bytes).bind State.finish?

/-- Reading a text in two pieces. -/
theorem run_append (s : State) (xs ys : Bytes) :
    run s (xs ++ ys) = (run s xs).bind fun s' => run s' ys := by
  induction xs generalizing s with
  | nil => rfl
  | cons b rest ih =>
    simp only [List.cons_append, run]
    cases step s b with
    | none => rfl
    | some s' => exact ih s'

end Json

end Courier
