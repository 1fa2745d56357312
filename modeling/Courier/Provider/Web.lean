import Courier.Text.Charset

/-!
# The web

To talk to a service on the web, its address is read of a text, and the octets of what it answers
are read as text again.  Both are the work of others, and a sender is given a web that does it.

## Main definitions

* `Url`: a server and what is asked of it.
* `Url.target`: what stands in the request line.
* `Content`: octets with what is said of their type.
* `Web`: how texts become addresses, and contents texts.
* `Web.Documented`: what is known of every web.
-/

namespace Courier

/-- A server. -/
structure Server where
  /-- Whether it is talked to over TLS. -/
  secure : Bool
  /-- The name or number of the host. -/
  host : String
  port : Nat
  deriving DecidableEq, Repr

/-- A server and what is asked of it.  A user name and a password in front of the server are no part
of it, since they go into a header of their own. -/
structure Url where
  server : Server
  /-- The segments of the path, encoded. -/
  segments : List String
  /-- The query, encoded. -/
  query : Option String
  deriving DecidableEq, Repr

/-- What stands in the request line. -/
def Url.target (u : Url) : String :=
  "/" ++ "/".intercalate u.segments ++
    match u.query with
    | none => ""
    | some query => "?" ++ query

/-- What comes behind the headers of an answer. -/
structure Content where
  /-- The value of the header that names its type, which may name a character set as well. -/
  type : Option Bytes
  octets : Bytes
  deriving DecidableEq, Repr

/-- Octets of which no type is named. -/
instance : Coe Bytes Content := ⟨fun octets => ⟨none, octets⟩⟩

/-- What a sender has of the web. -/
structure Web where
  /-- The address that a text is, if a request can be made to it. -/
  address? : String → Option Url
  /-- The text of a content, in the character set that its type names. -/
  text : Content → String

/-- What is known of every web: without a type, the mark that octets begin with tells their
character set, and without a mark they are UTF-8. -/
structure Web.Documented (web : Web) : Prop where
  untyped : ∀ octets, web.text ⟨none, octets⟩ = Text.ofBytes octets

end Courier
