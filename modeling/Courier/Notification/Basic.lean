import Courier.Notification.Metadata
import Courier.Notification.UserId
import Courier.Text.Blank

/-!
# Notifications

A notification asks for one message to one recipient, built from a template and the variables of
the user.

## Main definitions

* `Notification`: the request.
* `Notification.recipient?`: the device token that a notification goes to.
-/

namespace Courier

/-- How a notification reaches its user. -/
inductive Medium where
  | push
  | email
  deriving DecidableEq, Repr

/-- The name of a medium. -/
def Medium.name : Medium → String
  | .push => "push"
  | .email => "email"

/-- The medium with a name. -/
def Medium.ofName? (name : String) : Option Medium :=
  if name = "push" then some .push else if name = "email" then some .email else none

/-- What a template is filled with. -/
structure Variables where
  /-- How the user is addressed. -/
  name : String
  /-- Where the user is sent. -/
  link : String
  /-- Further values. -/
  details : Metadata
  deriving DecidableEq, Inhabited

/-- No variables. -/
def Variables.none : Variables := ⟨"", "", .empty⟩

/-- A request to notify one user. -/
structure Notification where
  /-- How it is to reach the user. -/
  medium : Medium
  /-- The device token of the recipient. -/
  token : Option String
  userId : Option UserId
  templateCode : String
  /-- The variables of the template. -/
  values : Variables
  /-- The identity of the request, under which it is followed through the pipeline. -/
  requestId : String
  /-- Carried along without effect. -/
  priority : Int32
  /-- Further values. -/
  metadata : Metadata
  deriving DecidableEq

namespace Notification

/-- The device token that a notification goes to: its own without white space around it, unless
nothing is left of it, and otherwise the default one, exactly as configured. -/
def recipient? (n : Notification) (defaultToken : Option String) : Option String :=
  match n.token with
  | none => defaultToken
  | some token => if (Text.trim token).isEmpty then defaultToken else some (Text.trim token)

end Notification

end Courier
