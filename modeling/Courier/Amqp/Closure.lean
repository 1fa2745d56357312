import Courier.Error

/-!
# Closures

A channel or a connection is closed with a code and a text.  The codes of errors have names; a soft
error is meant for one channel and a hard error for the whole connection.

## Main definitions

* `Amqp.Closure`: a code with a text.
* `Amqp.Closure.reason`: how a closure by the broker is put into words.
-/

namespace Courier

namespace Amqp

/-- Why a channel or a connection is closed. -/
structure Closure where
  code : UInt16
  text : String
  deriving DecidableEq, Repr

/-- How much an error affects. -/
inductive Severity where
  /-- One channel. -/
  | soft
  /-- The connection. -/
  | hard
  deriving DecidableEq, Repr

/-- The word for a severity. -/
def Severity.name : Severity → String
  | .soft => "soft"
  | .hard => "hard"

/-- The severity and the name of a code. -/
def errorName? (code : UInt16) : Option (Severity × String) :=
  match code.toNat with
  | 311 => some (.soft, "CONTENT-TOO-LARGE")
  | 312 => some (.soft, "NO-ROUTE")
  | 313 => some (.soft, "NO-CONSUMERS")
  | 403 => some (.soft, "ACCESS-REFUSED")
  | 404 => some (.soft, "NOT-FOUND")
  | 405 => some (.soft, "RESOURCE-LOCKED")
  | 406 => some (.soft, "PRECONDITION-FAILED")
  | 320 => some (.hard, "CONNECTION-FORCED")
  | 402 => some (.hard, "INVALID-PATH")
  | 501 => some (.hard, "FRAME-ERROR")
  | 502 => some (.hard, "SYNTAX-ERROR")
  | 503 => some (.hard, "COMMAND-INVALID")
  | 504 => some (.hard, "CHANNEL-ERROR")
  | 505 => some (.hard, "UNEXPECTED-FRAME")
  | 506 => some (.hard, "RESOURCE-ERROR")
  | 530 => some (.hard, "NOT-ALLOWED")
  | 540 => some (.hard, "NOT-IMPLEMENTED")
  | 541 => some (.hard, "INTERNAL-ERROR")
  | _ => none

/-- The words for a closure by the broker; there are none for a code that is no error. -/
def Closure.reason (c : Closure) : Reason :=
  (errorName? c.code).map fun (severity, name) =>
    "protocol error: AMQP " ++ severity.name ++ " error: " ++ name ++ ": " ++ c.text

end Amqp

end Courier
