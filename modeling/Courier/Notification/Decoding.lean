import Courier.Json.Number
import Courier.Json.Reader
import Courier.Json.Record
import Courier.Notification.Basic

/-!
# Reading notifications

A notification is a record with the fields `notification_type`, `token`, `user_id`,
`template_code`, `variables`, `request_id`, `priority` and `metadata`, in this order; only the
first and `request_id` have to be there.  `variables` is a record with the fields `name`, `link`
and `meta`.

## Main definitions

* `Notification.ofJson?`: the notification of a JSON value.
* `Notification.decode?`: the notification of the octets of a message.
-/

namespace Courier

open Json

/-- A medium: its name, or an object whose one member has that name and the value null. -/
def Medium.ofJson? : Value → Option Medium
  | .string raw => (unquote? raw).bind Medium.ofName?
  | .object [(raw, .null)] => (unquote? raw).bind Medium.ofName?
  | _ => none

/-- A scalar; null, arrays and objects are none. -/
def Scalar.ofJson? : Value → Option Scalar
  | .bool b => some (.bool b)
  | .number l => l.number?.map .number
  | .string raw => (unquote? raw).map .text
  | _ => none

/-- Adds a member of an object to a map. -/
def addScalar? (m : Metadata) (member : Raw × Value) : Option Metadata :=
  match unquote? member.1, Scalar.ofJson? member.2 with
  | some key, some value => some (m.insert key value)
  | _, _ => none

/-- A map of scalars.  Of several members with one name the last counts, but all are checked. -/
def metadataOfJson? : Value → Option Metadata
  | .object members => members.foldlM addScalar? .empty
  | _ => none

/-- An integer of 32 bits, written as one; a negative zero is not. -/
def priorityOfJson? : Value → Option Int32
  | .number l =>
    match l.number? with
    | some (.integer n) =>
      if -2147483648 ≤ n.val ∧ n.val < 2147483648 then some (Int32.ofInt n.val) else none
    | _ => none
  | _ => none

/-- A user id: a string in one of the forms of `UserId.parse?`. -/
def UserId.ofJson? (v : Value) : Option UserId := v.text?.bind UserId.parse?

/-- The fields of `variables`. -/
def Variables.fieldNames : List String := ["name", "link", "meta"]

/-- The variables of a template. -/
def Variables.ofJson? (v : Value) : Option Variables := do
  let fields ← fields? fieldNames v
  let name ← fields.optional? "name" Value.text? ""
  let link ← fields.optional? "link" Value.text? ""
  let details ← fields.optional? "meta" metadataOfJson? .empty
  return { name, link, details }

namespace Notification

/-- The fields of a notification. -/
def fieldNames : List String :=
  ["notification_type", "token", "user_id", "template_code", "variables", "request_id", "priority",
    "metadata"]

/-- The notification of a JSON value. -/
def ofJson? (v : Value) : Option Notification := do
  let fields ← fields? fieldNames v
  let medium ← fields.required? "notification_type" Medium.ofJson?
  let token ← fields.optional? "token" (nullable? Value.text?) none
  let userId ← fields.optional? "user_id" (nullable? UserId.ofJson?) none
  let templateCode ← fields.optional? "template_code" Value.text? ""
  let values ← fields.optional? "variables" Variables.ofJson? .none
  let requestId ← fields.required? "request_id" Value.text?
  let priority ← fields.optional? "priority" priorityOfJson? 0
  let metadata ← fields.optional? "metadata" metadataOfJson? .empty
  return { medium, token, userId, templateCode, values, requestId, priority, metadata }

/-- The notification of the octets of a message. -/
def decode? (bytes : Bytes) : Option Notification := (read? bytes).bind ofJson?

end Notification

end Courier
