import Courier.Config.Field

/-!
# The configuration in an environment

Each field is named by the variable whose name in lower case is that of the field; all other
variables are ignored.  The variables are read in their order, and the first faulty one decides
the failure: one that names a field again, or one whose value is no integer of the width of its
field.

## Main definitions

* `Environment`: variables in order.
* `Config.EnvironmentFault`: why there is no configuration in an environment.
* `Config.ofEnvironment`: the configuration in an environment.
* `Config.load`: the same, if the service may run with it.
-/

namespace Courier

/-- The variables of a process in their order. -/
abbrev Environment := List (String × String)

namespace Environment

/-- The value of the variable with a name. -/
def get? (env : Environment) (name : String) : Option String := env.lookup name

/-- A character in lower case, as far as it can stand in the name of a field: beside the capital
letters that is the sign for the unit kelvin. -/
def lowerChar (c : Char) : Char := if c = Char.ofNat 0x212A then 'k' else c.toLower

/-- A name in lower case. -/
def lower (name : String) : String := String.ofList (name.toList.map lowerChar)

end Environment

namespace Config

/-- Why there is no configuration in an environment. -/
inductive EnvironmentFault where
  /-- A field has no value and no default. -/
  | missing (f : Field)
  /-- Two variables name one field. -/
  | duplicate (f : Field)
  /-- The value of a variable is no integer as it should be. -/
  | unreadable (name value : String) (fault : Unsigned.Fault)
  deriving DecidableEq, Repr

/-- The fault in words. -/
def EnvironmentFault.message : EnvironmentFault → String
  | .missing f => "missing value for field " ++ f.name
  | .duplicate f => "duplicate field `" ++ f.name ++ "`"
  | .unreadable name value fault =>
    fault.message ++ " while parsing value '" ++ value ++ "' provided by " ++ name

/-- Adds a variable to a draft. -/
def addVariable (d : Draft) (v : String × String) : Except EnvironmentFault Draft :=
  match Field.ofName? (Environment.lower v.1) with
  | none => .ok d
  | some f =>
    if (d f).isSome then .error (.duplicate f)
    else
      match f.kind.ofText v.2 with
      | .ok value => .ok (d.set f value)
      | .error fault => .error (.unreadable v.1 v.2 fault)

/-- The configuration in an environment. -/
def ofEnvironment (env : Environment) : Except EnvironmentFault Config :=
  match env.foldlM addVariable .empty with
  | .error fault => .error fault
  | .ok d =>
    match ofDraft? d with
    | some c => .ok c
    | none => .error (.missing .rabbitmqUrl)

/-- Why the service has no configuration to run with. -/
inductive LoadError where
  /-- There is none in the environment. -/
  | environment (fault : EnvironmentFault)
  /-- The service may not run with the one there is. -/
  | invalid (problem : Problem)
  deriving DecidableEq, Repr

/-- The failure in words. -/
def LoadError.message : LoadError → String
  | .environment fault => "Invalid or missing environmental variable: " ++ fault.message
  | .invalid problem => problem.message

/-- The configuration in an environment, if the service may run with it. -/
def load (env : Environment) : Except LoadError Config :=
  match ofEnvironment env with
  | .error fault => .error (.environment fault)
  | .ok c =>
    match c.validate with
    | .ok () => .ok c
    | .error problem => .error (.invalid problem)

end Config

end Courier
