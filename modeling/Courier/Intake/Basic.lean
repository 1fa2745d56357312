import Courier.Health
import Courier.Intake.MediaType
import Courier.Notification.Decoding
import Courier.Notification.Validation
import Courier.Publishing.Basic

/-!
# The HTTP interface

`POST /notification` takes one notification in: it is decoded, validated and queued, and the answer
says which of these went wrong.  `GET /health` reports the health of the service.

## Main definitions

* `Intake.Request`, `Intake.Response`.
* `Intake.read?`: the notification in a request.
* `Intake.respond`: the answer to a request.
-/

namespace Courier

namespace Intake

open Json (Value)

/-- A request. -/
structure Request where
  method : String
  /-- The target: a path, and possibly a query. -/
  target : String
  /-- The headers in order. -/
  headers : List (String × String)
  body : Bytes

/-- The content of an answer. -/
inductive Content where
  | empty
  | json (v : Value)
  | report (r : Health.Report)

/-- An answer. -/
structure Response where
  /-- The status code. -/
  status : Nat
  /-- The methods that would be answered, if the one of the request is not. -/
  allow : Option String
  /-- The type of the content, if there is content. -/
  contentType : Option String
  content : Content

/-- An answer with a JSON content. -/
def Response.ofContent (status : Nat) (content : Content) : Response :=
  ⟨status, none, some Publishing.jsonContentType, content⟩

/-- An answer with a JSON object. -/
def Response.record (status : Nat) (members : List (String × Value)) : Response :=
  .ofContent status (.json (.record members))

/-- The answer for a notification that was queued. -/
def queued (requestId : String) : Response :=
  .record 202 [("status", .text "queued"), ("request_id", .text requestId)]

/-- The answer for a request that is no valid notification. -/
def validationFailed : Response := .record 400 [("error", .text "Validation failed")]

/-- The answer for a notification that could not be queued. -/
def queueFailed : Response := .record 500 [("error", .text "Failed to queue notification")]

/-- The answer for a path that leads nowhere. -/
def notFound : Response := ⟨404, none, none, .empty⟩

/-- The answer for a method that a path does not know. -/
def methodNotAllowed (allow : String) : Response := ⟨405, some allow, none, .empty⟩

/-- The greatest number of octets in the body of a request. -/
def bodyLimit : Nat := 2097152

/-- A header value without the blanks around it. -/
def trimHeader (value : String) : String :=
  let isBlank := fun c : Char => c == ' ' || c == '\t'
  String.ofList (Text.dropRightWhile isBlank (value.toList.dropWhile isBlank))

/-- The value of the first header with a name, whose case does not matter. -/
def Request.header? (r : Request) (name : String) : Option String :=
  (r.headers.find? fun (n, _) => n.toLower == name).map fun (_, value) => trimHeader value

/-- Whether a request announces JSON. -/
def Request.announcesJson (r : Request) : Bool :=
  match (r.header? "content-type").bind MediaType.ofHeader? with
  | some t => t.isJson
  | none => false

/-- The path of a request. -/
def Request.path (r : Request) : String :=
  String.ofList (r.target.toList.takeWhile fun c => c ≠ '?' && c ≠ '#')

/-- The valid notification in a request. -/
def read? (r : Request) : Option Notification :=
  if r.announcesJson ∧ r.body.length ≤ bodyLimit then
    match Notification.decode? r.body with
    | some n =>
      match n.validate with
      | .ok () => some n
      | .error _ => none
    | none => none
  else none

/-- Takes a notification in. -/
def queue (c : Publishing.Config) (r : Request) : Publishing.Task Response :=
  match read? r with
  | none => .done validationFailed
  | some n =>
    (Publishing.publish c n).bind fun
      | .ok () => .done (queued n.requestId)
      | .error _ => .done queueFailed

/-- The status code of a report. -/
def statusOf : Health.Status → Nat
  | .healthy | .degraded => 200
  | .unhealthy => 503

/-- Reports the health of the service. -/
def reportHealth (r : Health.Report) : Response := .ofContent (statusOf r.status) (.report r)

/-- The answer to a request at a moment when the health of the service is `health`. -/
def respond (c : Publishing.Config) (health : Health.Report) (r : Request) :
    Publishing.Task Response :=
  if r.path = "/notification" then
    if r.method = "POST" then queue c r else .done (methodNotAllowed "POST")
  else if r.path = "/health" then
    if r.method = "GET" then .done (reportHealth health)
    else if r.method = "HEAD" then .done { reportHealth health with content := .empty }
    else .done (methodNotAllowed "GET,HEAD")
  else .done notFound

end Intake

end Courier
