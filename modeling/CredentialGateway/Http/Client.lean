/-
Requests from the gateway to its backends.

A client reads the URL first: it must name a host, under a scheme of HTTP.  User and
password of the URL become a header field unless there is one already, and what is
left of the URL must be a target as requests name it.  That is a second reading, and
a stricter one: it takes fewer characters in a host, and no more octets than a target
may have.  A fragment is read with the rest, but it is not sent.
-/
import CredentialGateway.Http.Reply
import CredentialGateway.Http.Uri
import CredentialGateway.Text.Base64
import CredentialGateway.Url

namespace CredentialGateway.Http

/-- A request to a backend. -/
structure Outgoing where
  /-- The method. -/
  method : String
  /-- The URL. -/
  url : String
  /-- The header fields. -/
  headers : Headers
  /-- The body. -/
  body : List UInt8
deriving DecidableEq

/-- What comes of a request to a backend. -/
inductive Outcome where
  /-- The backend answers. -/
  | answered (reply : Reply)
  /-- There is no connection, or it ends without an answer. -/
  | unreachable
  /-- There is no answer in time. -/
  | late

/-- What the backends do with requests. -/
abbrev Backends := Outgoing → Outcome

namespace Outgoing

/-- The octets that an escaped text stands for, if they are text themselves. -/
def unescaped? (text : List Char) : Option (List UInt8) :=
  let octets := Percent.unescape (Utf8.encode text)
  if (Utf8.decode? octets).isSome then some octets else none

/-- The user and the password of a URL with a colon between them: nothing if there is neither, or if
the user is no text.  A password that is no text is none. -/
def credentials? (u : Url) : Option (List UInt8) := do
  let user ← unescaped? u.user
  let password := (unescaped? u.password).getD []
  if user.isEmpty && password.isEmpty then none else some (user ++ 0x3A :: password)

/-- The header value for the user and password of a URL. -/
def basicValue? (u : Url) : Option (List UInt8) :=
  (credentials? u).map fun c => Utf8.encodeString "Basic " ++ Base64.standard.encode c

/-- A URL without the user and password that a header field tells. -/
def handedOn (u : Url) : Url :=
  if (credentials? u).isSome then { u with user := [], password := [] } else u

/-- Whether a client sends requests to a URL: it has a host, under a scheme of HTTP, and what is
handed on of it can be read as the target of a request. -/
def isSendable (u : Url) : Bool :=
  Url.isHttp u.scheme && u.host.isSome &&
    (Uri.parse? (String.ofList (handedOn u).render)).isSome

/-- Give a name a value, unless it has one. -/
def orElse (h : Headers) (name : String) (value : Option (List UInt8)) : Headers :=
  match value with
  | some v => if h.has name then h else h ++ [(name, v)]
  | none => h

/-- The request as it goes out; nothing if no client can send it. -/
def prepare? (r : Outgoing) : Option Outgoing := do
  let u ← Url.parse? r.url
  if isSendable u then
    let headers := orElse r.headers "authorization" (basicValue? u)
    some { r with
      url := String.ofList u.renderRequest
      headers := orElse headers "accept" (some (Utf8.encodeString "*/*")) }
  else none

end Outgoing

end CredentialGateway.Http
