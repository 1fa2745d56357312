import Courier.Json.Printer
import Courier.Notification.Basic

/-!
# What the push provider is sent

The provider is sent the device token, a title and a text made from two templates, and a map of
further values.  In that map the values of the metadata go before those of the variables, and five
reserved keys always hold fields of the notification itself.

## Main definitions

* `Provider.dataOf`: the further values.
* `Provider.payloadOf`: the payload of a notification.
* `Provider.Payload.encode`: its octets.
-/

namespace Courier

namespace Provider

open Json

/-- The displayed values of a map. -/
def displayed (m : Metadata) : List (String × String) :=
  m.entries.map fun (key, value) => (key, value.display)

/-- The values under the reserved keys. -/
def reserved (n : Notification) : List (String × String) :=
  [("name", n.values.name), ("link", n.values.link), ("template_code", n.templateCode),
    ("user_id", (n.userId.map UserId.render).getD ""), ("request_id", n.requestId)]

/-- The further values for a notification. -/
def dataOf (n : Notification) : Keyed String :=
  .ofList (displayed n.values.details ++ displayed n.metadata ++ reserved n)

/-- What the provider is sent. -/
structure Payload where
  /-- The device token. -/
  token : String
  /-- The title that is shown. -/
  title : String
  /-- The text that is shown. -/
  body : String
  /-- The further values. -/
  data : Keyed String
  deriving DecidableEq

/-- The payload of a notification for a device. -/
def payloadOf (token : String) (n : Notification) : Payload where
  token := token
  title := "Hello, " ++ n.values.name ++ "!"
  body := "You have a new update. Check it out here: " ++ n.values.link
  data := dataOf n

/-- A payload as an object. -/
def Payload.toJson (p : Payload) : Value :=
  .record [("message", .record [("token", .text p.token),
    ("notification", .record [("title", .text p.title), ("body", .text p.body)]),
    ("data", .record (p.data.entries.map fun (key, value) => (key, .text value)))])]

/-- The octets of a payload. -/
def Payload.encode (p : Payload) : Bytes := p.toJson.render

end Provider

end Courier
