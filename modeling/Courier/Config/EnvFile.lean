import Courier.Config.Environment
import Courier.Text.Alphanumeric
import Courier.Text.Blank
import Courier.Text.Utf8

/-!
# The environment file

A file of assignments fills in variables that the environment does not have.  It is read in two
layers.  The lines of the file are joined to logical lines wherever a quote is still open at the
end of one, and a comment ends a logical line.  A logical line assigns a value to a name; in the
value, quotes, escapes and the names of other variables are replaced.

The lines count one by one, and the first that cannot be read ends the reading without undoing the
ones before it.

An environment is made of texts here.  What is left out is a value with the character NUL in it, which
no environment takes and at which the program ends, and variables that are not Unicode.

## Main definitions

* `EnvFile.LineState`, `EnvFile.logicalLines`: the lines of a file.
* `EnvFile.parseLine`: the assignment in a line.
* `EnvFile.apply`: an environment with what a file adds to it.
-/

namespace Courier

namespace EnvFile

/-! ### Logical lines -/

/-- Where a line stands after some of its characters. -/
inductive LineState where
  /-- The line may end here. -/
  | complete
  /-- After a backslash. -/
  | escape
  /-- Between single quotes. -/
  | strong
  /-- After a backslash between single quotes. -/
  | strongEscape
  /-- Between double quotes. -/
  | weak
  /-- After a backslash between double quotes. -/
  | weakEscape
  /-- After a blank. -/
  | blank
  deriving DecidableEq, Repr

/-- A character outside quotes. -/
def LineState.opening (c : Char) : Option LineState :=
  if c = '\\' then some .escape
  else if c = '"' then some .weak
  else if c = '\'' then some .strong
  else none

/-- One character; `none` where a comment begins. -/
def LineState.step : LineState → Char → Option LineState
  | .complete, c =>
    if Text.isBlank c && c ≠ '\n' && c ≠ '\r' then some .blank
    else some ((opening c).getD .complete)
  | .blank, c => if c = '#' then none else some ((opening c).getD .complete)
  | .escape, _ => some .complete
  | .weak, c =>
    some (if c = '\\' then .weakEscape else if c = '"' then .complete else .weak)
  | .weakEscape, _ => some .weak
  | .strong, c =>
    some (if c = '\\' then .strongEscape else if c = '\'' then .complete else .strong)
  | .strongEscape, _ => some .strong

/-- How the characters of a line end. -/
inductive LineEnd where
  /-- With the end of the line, in some state. -/
  | state (s : LineState)
  /-- With a comment, in front of which there are these characters, last one first. -/
  | comment (before : List Char)

/-- Reads a line from a state on, in front of which the characters `before` (last one first) have
been read. -/
def LineEnd.ofChars (s : LineState) (before : List Char) : List Char → LineEnd
  | [] => .state s
  | c :: rest =>
    match s.step c with
    | none => .comment before
    | some s => ofChars s (c :: before) rest

/-- The characters without the end of the line. -/
def dropLineEnd (cs : List Char) : List Char :=
  match cs.reverse with
  | '\n' :: '\r' :: rest => rest.reverse
  | '\n' :: rest => rest.reverse
  | _ => cs

/-- The lines of a file, each with its line feed; a line that is not UTF-8 is `none`. -/
def physicalLines (bytes : Bytes) : List (Option (List Char)) :=
  go [] bytes
where
  /-- The lines of some octets, in front of which the octets `before` (last one first) have been
  read. -/
  go (before : Bytes) : Bytes → List (Option (List Char))
    | [] => if before.isEmpty then [] else [Utf8.decode? before.reverse]
    | b :: rest =>
      if b = 0x0A then Utf8.decode? (b :: before).reverse :: go [] rest else go (b :: before) rest

/-- The logical lines of some lines, in front of which the characters `joined` have been read and
left the line in a state.  Where the lines can no longer be read, the last element is `none`. -/
def joinLines (s : LineState) (joined : List Char) :
    List (Option (List Char)) → List (Option (List Char))
  | [] => if s = .complete then [] else [none]
  | none :: _ => [none]
  | some line :: rest =>
    let all := joined ++ line
    if (all.dropWhile Text.isBlank).head? = some '#' then some [] :: joinLines .complete [] rest
    else
      match LineEnd.ofChars s [] line with
      | .comment before => some (joined ++ before.reverse) :: joinLines .complete [] rest
      | .state .complete => some (dropLineEnd all) :: joinLines .complete [] rest
      | .state s => joinLines s all rest

/-- The octets without a byte order mark in front. -/
def dropMark : Bytes → Bytes
  | 0xEF :: 0xBB :: 0xBF :: rest => rest
  | bytes => bytes

/-- The logical lines of a file. -/
def logicalLines (bytes : Bytes) : List (Option (List Char)) :=
  joinLines .complete [] (physicalLines (dropMark bytes))

/-! ### Values -/

/-- What a value is while a name in it is being read. -/
inductive NameMode where
  /-- No name is being read. -/
  | none
  /-- A name after a dollar sign. -/
  | bare
  /-- A name in braces. -/
  | braced
  deriving DecidableEq, Repr

/-- A value in progress. -/
structure ValueState where
  /-- Between single quotes. -/
  strong : Bool
  /-- Between double quotes. -/
  weak : Bool
  /-- After a backslash. -/
  escaped : Bool
  /-- After the blank that ends the value. -/
  ended : Bool
  /-- Whether a name is being read. -/
  mode : NameMode
  /-- The name so far, last character first. -/
  name : List Char
  /-- The value so far, last character first. -/
  output : List Char

/-- A value of which nothing has been read. -/
def ValueState.start : ValueState := ⟨false, false, false, false, .none, [], []⟩

/-- The values of variables, for the names in a value. -/
abbrev Lookup := String → String

namespace ValueState

/-- Adds a character to the value. -/
def push (s : ValueState) (c : Char) : ValueState := { s with output := c :: s.output }

/-- Ends the name being read and adds what it stands for. -/
def substitute (lookup : Lookup) (s : ValueState) : ValueState :=
  { s with
    name := []
    output := (lookup (String.ofList s.name.reverse)).toList.reverse ++ s.output }

/-- The character that a backslash and another character stand for. -/
def escape? (c : Char) : Option Char :=
  if c = '\\' ∨ c = '\'' ∨ c = '"' ∨ c = '$' ∨ c = ' ' then some c
  else if c = 'n' then some '\n'
  else none

/-- One character after a dollar sign. -/
def stepBare (lookup : Lookup) (s : ValueState) (c : Char) : ValueState :=
  if Text.isAlphanumeric c then { s with name := c :: s.name }
  else if c = '\x7b' ∧ s.name.isEmpty then { s with mode := .braced }
  else
    let s := s.substitute lookup
    if c = '$' then { s with mode := .bare } else { s with mode := .none }.push c

/-- One character in braces. -/
def stepBraced (lookup : Lookup) (s : ValueState) (c : Char) : ValueState :=
  if c = '\x7d' then { s.substitute lookup with mode := .none } else { s with name := c :: s.name }

/-- One character outside names, escapes and single quotes. -/
def stepPlain (s : ValueState) (c : Char) : ValueState :=
  if c = '$' then { s with mode := .bare }
  else if s.weak then
    if c = '"' then { s with weak := false }
    else if c = '\\' then { s with escaped := true }
    else s.push c
  else if c = '\'' then { s with strong := true }
  else if c = '"' then { s with weak := true }
  else if c = '\\' then { s with escaped := true }
  else if c = ' ' ∨ c = '\t' then { s with ended := true }
  else s.push c

/-- The value at the end of its text, where no quote or brace may be open. -/
def finish? (lookup : Lookup) (s : ValueState) : Option (List Char) :=
  if s.mode = .braced ∨ s.strong ∨ s.weak then none
  else some (s.substitute lookup).output.reverse

/-- Reads a value.  After the blank that ends it only blanks and a comment may follow. -/
def read? (lookup : Lookup) : ValueState → List Char → Option (List Char)
  | s, [] => s.finish? lookup
  | s, c :: rest =>
    if s.ended then
      if c = ' ' ∨ c = '\t' then read? lookup s rest
      else if c = '#' then s.finish? lookup
      else none
    else if s.escaped then
      match escape? c with
      | some c => read? lookup ({ s with escaped := false }.push c) rest
      | none => none
    else if s.strong then
      read? lookup (if c = '\'' then { s with strong := false } else s.push c) rest
    else
      match s.mode with
      | .bare => read? lookup (s.stepBare lookup c) rest
      | .braced => read? lookup (s.stepBraced lookup c) rest
      | .none => read? lookup (s.stepPlain c) rest

end ValueState

/-! ### Assignments -/

/-- What a logical line says. -/
inductive Line where
  /-- Nothing. -/
  | blank
  /-- A variable gets a value. -/
  | assignment (name value : String)
  /-- The line cannot be read. -/
  | unreadable
  deriving DecidableEq, Repr

/-- Whether a name may begin with a character. -/
def isNameStart (c : Char) : Bool := c.isAlpha || c == '_'

/-- Whether a name may go on with a character. -/
def isNamePart (c : Char) : Bool := c.isAlphanum || c == '_' || c == '.'

/-- The name in front of some characters, and what follows it and its blanks. -/
def name? (cs : List Char) : Option (List Char × List Char) :=
  match cs with
  | [] => none
  | c :: _ =>
    if isNameStart c then
      some (cs.takeWhile isNamePart, (cs.dropWhile isNamePart).dropWhile Text.isBlank)
    else none

/-- The name in front of an equals sign, and what follows that.  The word `export` may stand in
front of the name, but may also be the name. -/
def target? (cs : List Char) : Option (String × List Char) :=
  match name? cs with
  | none => none
  | some (name, '=' :: rest) => some (String.ofList name, rest)
  | some (name, rest) =>
    if name = "export".toList then
      match name? rest with
      | some (name, '=' :: rest) => some (String.ofList name, rest)
      | _ => none
    else none

/-- The assignment in a logical line. -/
def parseLine (lookup : Lookup) (line : List Char) : Line :=
  match Text.trimChars line with
  | [] => .blank
  | '#' :: _ => .blank
  | cs =>
    match target? cs with
    | none => .unreadable
    | some (name, rest) =>
      match rest.dropWhile Text.isBlank with
      | [] => .assignment name ""
      | '#' :: _ => .assignment name ""
      | value =>
        match ValueState.start.read? lookup value with
        | some value => .assignment name (String.ofList value)
        | none => .unreadable

/-! ### The file -/

/-- An environment and the assignments of a file read so far, the last one first. -/
structure Progress where
  env : Environment
  assigned : List (String × String)

/-- What a name in a value stands for: the variable of the environment, or else the assignment that
was made last. -/
def Progress.lookup (p : Progress) : Lookup := fun name =>
  ((p.env.get? name).or (p.assigned.lookup name)).getD ""

/-- Adds an assignment; a variable that the environment already has keeps its value. -/
def Progress.assign (p : Progress) (name value : String) : Progress where
  env := if (p.env.get? name).isSome then p.env else p.env ++ [(name, value)]
  assigned := (name, value) :: p.assigned

/-- Reads lines up to the first that cannot be read. -/
def Progress.readLines (p : Progress) : List (Option (List Char)) → Environment
  | [] => p.env
  | none :: _ => p.env
  | some line :: rest =>
    match parseLine p.lookup line with
    | .blank => p.readLines rest
    | .assignment name value => (p.assign name value).readLines rest
    | .unreadable => p.env

/-- An environment with what a file adds to it. -/
def apply (env : Environment) (file : Bytes) : Environment :=
  (Progress.mk env []).readLines (logicalLines file)

end EnvFile

end Courier
