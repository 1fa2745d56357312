import Courier.Dialogue
import Courier.Error
import Courier.Json.Number
import Courier.Json.Reader
import Courier.Json.Record
import Courier.Provider.Payload
import Courier.Provider.Web
import Courier.Text.Blank

/-!
# Talking to the push provider

A notification is sent in one attempt: an access token is fetched, and one request is made with it.
Any answer with a status of success has to be a record with the name of the message; any other
answer is a rejection, and no answer at all a failure of the transport.  How a text becomes an
address, and an answer text, is left to the web.

## Main definitions

* `Provider.Account`: where the provider is and whose messages are sent.
* `Provider.send`: one attempt.
* `Provider.accessToken?`: the access token in an answer of the authorization server.
-/

namespace Courier

namespace Provider

/-- Where the provider is and whose messages are sent. -/
structure Account where
  /-- The URL that the paths of the provider begin with. -/
  baseUrl : String
  project : String
  deriving DecidableEq, Repr

/-- The URL that messages are sent to; slashes at the end of the base count for nothing. -/
def Account.sendUrl (a : Account) : String :=
  String.ofList (Text.dropRightWhile (· == '/') a.baseUrl.toList) ++ "/v1/projects/" ++ a.project ++
    "/messages:send"

/-- A request to the provider. -/
structure Request where
  /-- Where it goes. -/
  url : Url
  /-- The header with which the sender identifies itself. -/
  authorization : String
  /-- What is sent. -/
  payload : Payload

/-- An answer over HTTP. -/
structure Reply where
  /-- The status code. -/
  status : UInt16
  /-- What comes behind the headers; `none` if it breaks off before its end. -/
  body : Option Content
  deriving DecidableEq, Repr

/-- Whether a status is one of success. -/
def isSuccess (status : UInt16) : Bool := 200 ≤ status && status < 300

/-- Whether answers with a status have no body, whatever is sent. -/
def isBodyless (status : UInt16) : Bool := status < 200 || status == 204 || status == 304

/-- The body as it is read. -/
def Reply.content (r : Reply) : Option Content :=
  if isBodyless r.status then some ⟨r.body.bind Content.type, []⟩ else r.body

/-- The octets of the body as it is read. -/
def Reply.octets (r : Reply) : Option Bytes := r.content.map Content.octets

/-- What is asked of the world. -/
inductive Question where
  | accessToken
  /-- An answer to a request. -/
  | post (request : Request)

/-- How a question is answered: a token or the failure to get one, and a reply if one arrives. -/
def Question.Answer : Question → Type
  | .accessToken => Except DeliveryError String
  | .post _ => Option Reply

/-- Whether a text may stand in a header. -/
def isHeaderValue (s : String) : Bool :=
  s.toList.all fun c => (32 ≤ c.toNat && c.toNat ≠ 127) || c == '\t'

/-- The request for a payload, unless its URL or its header cannot be written. -/
def request? (web : Web) (a : Account) (bearer : String) (payload : Payload) : Option Request :=
  match web.address? a.sendUrl with
  | none => none
  | some url =>
    if isHeaderValue bearer then some ⟨url, "Bearer " ++ bearer, payload⟩ else none

/-- The name of a message in the answer to its sending. -/
def messageName? (bytes : Bytes) : Option String :=
  (Json.read? bytes).bind fun v =>
    (Json.fields? ["name"] v).bind fun fields => fields.required? "name" Json.Value.text?

/-- The body as text.  It is for people, so that one that breaks off counts as empty. -/
def Reply.text (web : Web) (r : Reply) : String := (r.content.map web.text).getD ""

/-- What an answer means. -/
def Reply.result (web : Web) (r : Reply) : Except DeliveryError String :=
  if isSuccess r.status then
    match r.octets.bind messageName? with
    | some name => .ok name
    | none => .error (.transport none)
  else .error (.rejected r.status (r.text web))

/-- One attempt to send a notification to a device. -/
def send (web : Web) (a : Account) (token : String) (n : Notification) :
    Dialogue Question Question.Answer (Except DeliveryError String) :=
  .ask .accessToken fun
    | .error e => .done (.error e)
    | .ok bearer =>
      match request? web a bearer (payloadOf token n) with
      | none => .done (.error (.transport none))
      | some request =>
        .ask (.post request) fun (reply : Option Reply) =>
          match reply with
          | none => .done (.error (.transport none))
          | some reply => .done (reply.result web)

/-- The seconds for which a token can be used. -/
def lifetime? : Json.Value → Option Int
  | .number l =>
    match l.number? with
    | some (.integer n) => if n.val < 9223372036854775808 then some n.val else none
    | _ => none
  | _ => none

/-- The access token in an answer of the authorization server. -/
def accessToken? (r : Reply) : Option String :=
  if isSuccess r.status then
    (r.octets.bind Json.read?).bind fun v =>
      (Json.fields? ["access_token", "expires_in"] v).bind fun fields =>
        (fields.required? "expires_in" lifetime?).bind fun _ =>
          fields.required? "access_token" Json.Value.text?
  else none

end Provider

end Courier
