/-
Requests to the gateway.
-/
import CredentialGateway.Http.Headers
import CredentialGateway.Http.Uri

namespace CredentialGateway.Http

/-- A body as it arrives. -/
structure Body where
  /-- The octets that arrive. -/
  octets : List UInt8
  /-- Why no more of them arrive, if the body breaks off. -/
  fault : Option String

/-- A request. -/
structure Request where
  /-- The method. -/
  method : String
  /-- The target. -/
  uri : Uri
  /-- The header fields, with their names in lower case. -/
  headers : Headers
  /-- The body. -/
  body : Body

/-- Whether a text is a method or a header name. -/
def isToken (text : String) : Bool :=
  !text.isEmpty && text.toList.all isTokenChar

/-- A header field, if its name and value are legal. -/
def field? (name : String) (value : List UInt8) : Option (String × List UInt8) :=
  if isToken name && isValue value then
    some (String.ofList (name.toList.map Text.lowerAscii), value)
  else none

/-- A request with a whole body, if its parts are legal. -/
def Request.of? (method uri : String) (headers : List (String × List UInt8))
    (body : List UInt8) : Option Request := do
  let uri ← Uri.parse? uri
  let headers ← headers.mapM fun (name, value) => field? name value
  if isToken method then some ⟨method, uri, headers, ⟨body, none⟩⟩ else none

end CredentialGateway.Http
