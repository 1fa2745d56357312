import Courier.Json.Quoted

/-!
# Records

A record is a value with named fields.  It is written as an object, in which the order of the
members does not matter and members with other names are skipped, or as an array of its fields in
their order, from which fields at the end may be missing.  In neither form may a field occur twice,
and in an object even the names that are skipped have to be text.

## Main definitions

* `Json.fieldsOfMembers?`, `Json.fieldsOfElements?`: the fields of either form.
* `Json.fields?`: the fields of a value.
* `Json.Fields.get?`: the value of a field.
-/

namespace Courier

namespace Json

/-- The fields that a record has, by name. -/
abbrev Fields := List (String × Value)

/-- The value of a field. -/
def Fields.get? (fields : Fields) (name : String) : Option Value := fields.lookup name

/-- Adds a member to the fields read so far; it must not name one of them. -/
def addMember? (names : List String) (fields : Fields) (member : Raw × Value) : Option Fields :=
  match unquote? member.1 with
  | none => none
  | some name =>
    if name ∈ names then
      if (fields.get? name).isSome then none else some ((name, member.2) :: fields)
    else some fields

/-- The fields among the members of an object. -/
def fieldsOfMembers? (names : List String) (members : List (Raw × Value)) : Option Fields :=
  members.foldlM (addMember? names) []

/-- The fields that the elements of an array are. -/
def fieldsOfElements? (names : List String) (elements : List Value) : Option Fields :=
  if elements.length ≤ names.length then some (names.zip elements) else none

/-- The fields of a value, in either form. -/
def fields? (names : List String) : Value → Option Fields
  | .object members => fieldsOfMembers? names members
  | .array elements => fieldsOfElements? names elements
  | _ => none

/-- The field `name` as `read` takes it, `fallback` if it is missing. -/
def Fields.optional? {α : Type} (fields : Fields) (name : String) (read : Value → Option α)
    (fallback : α) : Option α :=
  match fields.get? name with
  | none => some fallback
  | some v => read v

/-- The field `name` as `read` takes it; it must not be missing. -/
def Fields.required? {α : Type} (fields : Fields) (name : String) (read : Value → Option α) :
    Option α :=
  (fields.get? name).bind read

/-- A value that may be null. -/
def nullable? {α : Type} (read : Value → Option α) : Value → Option (Option α)
  | .null => some none
  | v => (read v).map some

end Json

end Courier
