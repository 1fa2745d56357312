import Courier.Notification.Basic
import Courier.Text.Utf8

/-!
# Validating notifications

A notification is taken in only with an identity and, if it names a device, with a token that can
be one: not empty, of at most 4096 octets, and without white space and control characters.

## Main definitions

* `ValidationError`: why a notification is refused.
* `validateToken`, `Notification.validate`.
-/

namespace Courier

/-- Why a notification is refused. -/
inductive ValidationError where
  /-- The identity of the request is blank. -/
  | blankRequestId
  /-- The device token is empty. -/
  | emptyToken
  /-- The device token is too long. -/
  | tokenTooLong
  /-- The device token has white space or control characters. -/
  | tokenCharacters
  deriving DecidableEq, Repr

/-- The greatest number of octets of a device token. -/
def maxTokenLength : Nat := 4096

/-- The reason in words. -/
def ValidationError.message : ValidationError → String
  | .blankRequestId => "request_id cannot be empty"
  | .emptyToken => "Device token cannot be empty"
  | .tokenTooLong =>
    "Device token too long (maximum " ++ Decimal.text maxTokenLength ++ " characters)"
  | .tokenCharacters => "Device token contains invalid characters"

/-- Whether a device token may be used. -/
def validateToken (token : String) : Except ValidationError Unit :=
  if token.isEmpty then .error .emptyToken
  else if maxTokenLength < token.utf8ByteSize then .error .tokenTooLong
  else if token.toList.any fun c => Text.isBlank c || Text.isControl c then
    .error .tokenCharacters
  else .ok ()

/-- Whether a notification may be taken in. -/
def Notification.validate (n : Notification) : Except ValidationError Unit :=
  if Text.isAllBlank n.requestId then .error .blankRequestId
  else
    match n.token with
    | none => .ok ()
    | some token => validateToken token

end Courier
