import Courier.Metrics
import Courier.Text.Blank

/-!
# The log

The service writes what happens to it as a log.  A filter, which is a list of directives, says how
detailed each part of the program writes; and the lines are plain text or JSON.

## Main definitions

* `Log.Level`: how important an entry is.
* `Log.Filter`: a list of directives, read by `Log.Filter.parse?`.
* `Log.Format`: the form of the lines.
-/

namespace Courier

namespace Log

/-- How important an entry is. -/
inductive Level where
  | error
  | warn
  | info
  | debug
  | trace
  deriving DecidableEq, Repr

/-- The rank of a level: the more detailed, the higher. -/
def Level.rank : Level → Nat
  | .error => 1
  | .warn => 2
  | .info => 3
  | .debug => 4
  | .trace => 5

/-- The highest rank that is written, from a word or a digit. -/
def rank? (word : String) : Option Nat :=
  match word.toLower with
  | "off" | "0" => some 0
  | "error" | "1" => some 1
  | "warn" | "2" => some 2
  | "info" | "3" => some 3
  | "debug" | "4" => some 4
  | "trace" | "5" => some 5
  | _ => none

/-- What some part of the program writes. -/
structure Directive where
  /-- How the names of the parts begin. -/
  target : String
  /-- The highest rank that is written. -/
  rank : Nat
  deriving DecidableEq, Repr

/-- A list of directives. -/
abbrev Filter := List Directive

/-- Whether a character may occur in the name of a part. -/
def isTargetChar (c : Char) : Bool := c.isAlphanum || c = '_' || c = ':' || c = '-'

/-- A directive: a rank for everything, or a part with or without a rank. -/
def Directive.parse? (s : String) : Option Directive :=
  match rank? s with
  | some r => some ⟨"", r⟩
  | none =>
    match s.splitOn "=" with
    | [target] => if valid target then some ⟨target, 5⟩ else none
    | [target, word] =>
      if valid target then
        if word.isEmpty then some ⟨target, 5⟩ else (rank? word).map (⟨target, ·⟩)
      else none
    | _ => none
where
  /-- Whether a text may name a part. -/
  valid (target : String) : Bool := !target.isEmpty && target.toList.all isTargetChar

/-- A filter: directives between commas; without any, only errors are written. -/
def Filter.parse? (s : String) : Option Filter :=
  match (s.splitOn ",").filter fun part => !part.isEmpty with
  | [] => some [⟨"", 1⟩]
  | parts => parts.mapM Directive.parse?

/-- The rank that a filter gives to a part: that of its most specific directive, and of several
equal ones that of the last. -/
def Filter.rank (f : Filter) (part : String) : Nat :=
  (f.foldl (fun (best : Option Directive) d =>
    if part.startsWith d.target then
      match best with
      | some b => if b.target.length ≤ d.target.length then some d else best
      | none => some d
    else best) none).elim 0 Directive.rank

/-- Whether a part writes entries of a level. -/
def Filter.enables (f : Filter) (part : String) (level : Level) : Bool :=
  level.rank ≤ f.rank part

/-- The part of the program that the service is. -/
def service : String := "push_relay"

/-- The filter of a service that is not told any. -/
def Filter.default : Filter := [⟨service, 3⟩]

/-- The filter for a text that may be missing or wrong. -/
def Filter.ofSetting (setting : Option String) : Filter :=
  (setting.bind Filter.parse?).getD Filter.default

/-- The form of the lines. -/
inductive Format where
  | text
  | json
  deriving DecidableEq, Repr

/-- The form for a text that may be missing. -/
def Format.ofSetting (setting : Option String) : Format :=
  if setting.any fun s => s.toLower = "json" then .json else .text

/-- The level at which an event of the pipeline is written. -/
def levelOf : Metrics.Event → Level
  | .received => .info
  | .deliveryFailure => .warn
  | .published => .info
  | .publishFailure => .error
  | .outcome (.succeeded _) => .info
  | .outcome (.retrying _) => .debug
  | .outcome (.retryLost _) => .error
  | .outcome (.deadLettered _) => .warn
  | .outcome .settlementFailed => .error

end Log

end Courier
