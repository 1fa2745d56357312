import Courier.Json.Number
import Courier.Json.Printer
import Courier.Notification.Basic

/-!
# Writing notifications

A notification is written as an object with its fields in order.  An absent token or user id and
an empty map are left out.

## Main definitions

* `Notification.toJson`: a notification as a JSON value.
* `Notification.encode`: the octets of a message.
-/

namespace Courier

open Json

/-- A scalar as a JSON value. -/
def Scalar.toJson : Scalar → Value
  | .bool b => .bool b
  | .number n => .number (.ofNumber n)
  | .text s => .text s

/-- A map as an object, its keys in order. -/
def metadataToJson (m : Metadata) : Value :=
  .object (m.entries.map fun (key, value) => (quote key, value.toJson))

/-- The members of `name` for a map, none if it is empty. -/
def metadataMembers (name : String) (m : Metadata) : List (String × Value) :=
  if m.isEmpty then [] else [(name, metadataToJson m)]

/-- The variables of a template as an object. -/
def Variables.toJson (v : Variables) : Value :=
  .record ([("name", .text v.name), ("link", .text v.link)] ++ metadataMembers "meta" v.details)

namespace Notification

/-- A notification as an object. -/
def toJson (n : Notification) : Value :=
  .record ([("notification_type", Value.text n.medium.name)] ++
    (n.token.map fun token => ("token", Value.text token)).toList ++
    (n.userId.map fun user => ("user_id", Value.text user.render)).toList ++
    [("template_code", .text n.templateCode), ("variables", n.values.toJson),
      ("request_id", .text n.requestId), ("priority", .int n.priority.toInt)] ++
    metadataMembers "metadata" n.metadata)

/-- The octets of a message. -/
def encode (n : Notification) : Bytes := n.toJson.render

end Notification

end Courier
