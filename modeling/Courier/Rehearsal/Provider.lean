import Courier.Provider.Client
import Courier.Rehearsal.Address

/-!
# A scripted push provider

A rehearsal plays the service against partners that follow a script.  The provider is a server that
answers every request in the same way, and the authorization server behind it gives out one token.

## Main definitions

* `Rehearsal.ProviderScript`: the script.
* `Rehearsal.ProviderScript.send`: a notification sent to it.
-/

namespace Courier

namespace Rehearsal

/-- A provider that follows a script. -/
structure ProviderScript where
  /-- Where it listens. -/
  server : Server
  /-- The access token that a sender gets, or why there is none. -/
  token : Except Reason String
  /-- The answer to every request; `none` to hang up. -/
  reply : Option Provider.Reply

namespace ProviderScript

/-- Where scripted providers listen. -/
def listening : Server := ⟨false, "127.0.0.1", 18081⟩

/-- The URL of a scripted provider. -/
def baseUrl : String := "http://127.0.0.1:18081"

/-- The answer of a script: an informational status alone is no answer. -/
def replyOf (status : UInt16) (body : Bytes) : Option Provider.Reply :=
  if status < 200 ∧ status ≠ 101 then none else some ⟨status, some ⟨none, body⟩⟩

/-- The answer to a question.  Requests to other servers go nowhere; the others are noted, the
latest first. -/
def answer (p : ProviderScript) (q : Provider.Question)
    (seen : List Provider.Request) : q.Answer × List Provider.Request :=
  match q with
  | .accessToken => (p.token.mapError .authentication, seen)
  | .post request =>
    if request.url.server = p.server then (p.reply, request :: seen) else (none, seen)

/-- A notification sent to a scripted provider, and the requests that this one has seen. -/
def send (p : ProviderScript) (account : Provider.Account) (token : String) (n : Notification)
    (seen : List Provider.Request) :
    Except DeliveryError String × List Provider.Request :=
  (Provider.send web account token n).run p.answer seen

end ProviderScript

end Rehearsal

end Courier
