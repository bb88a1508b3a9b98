/-
Who may pass.

A token is looked for in the header field of the gateway and else in the one for
authorization.  Behind the check a request carries the identity of its
token, as far as the caller did not give one.
-/
import CredentialGateway.Gateway
import CredentialGateway.Http.Reply
import CredentialGateway.Http.Request

namespace CredentialGateway.Server

open Http

/-! ### Names -/

/-- The header field for the token. -/
def tokenField : String := "magic-authorization"

/-- The header field for the gateway's key. -/
def keyField : String := "x-gateway-api-key"

/-- The header field for authorization. -/
def authorizationField : String := "authorization"

/-- The header field for the caller's own id. -/
def userField : String := "x-user-id"

/-- The header field for the id that a service in front asserts. -/
def assertedField : String := "magic-user-id"

/-- The header field for the caller's organization. -/
def organizationField : String := "magic-organization-code"

/-! ### Credentials -/

/-- The paths that ask for no token. -/
def publicPaths : List String := ["/auth", "/status"]

/-- Where a token was found. -/
inductive Source where
  /-- In the gateway's own header field. -/
  | gateway
  /-- In the header field for authorization. -/
  | authorization
deriving DecidableEq

/-- The text of a header field that is not empty. -/
def fieldText? (h : Headers) (name : String) : Option String :=
  nonEmpty (h.text? name)

/-- The credential of a request. -/
def presented? (h : Headers) : Option (String × Source) :=
  match fieldText? h tokenField with
  | some text => some (text, .gateway)
  | none => (fieldText? h authorizationField).map fun text => (text, .authorization)

/-- What a request is granted by its token. -/
structure Grant where
  /-- What the token says. -/
  claims : Token.Claims
  /-- Where the token was found. -/
  source : Source

/-- Check the token of a request. -/
def grant (mac : Token.Mac) (a : Token.Authority) (now : UInt64) (h : Headers) :
    Except Failure Grant :=
  match presented? h with
  | none => .error (.unauthorised "Missing authorization header")
  | some (text, source) =>
    match a.verify mac now text with
    | .ok claims => .ok ⟨claims, source⟩
    | .error _ => .error (.unauthorised "Invalid or expired token")

/-! ### Identity -/

/-- Give a header field a value, unless its first value is not empty already or the new one is
not legal. -/
def setIfAbsent (h : Headers) (name text : String) : Headers :=
  match h.first? name with
  | some (_ :: _) => h
  | _ =>
    match value? text with
    | some value => h.put name value
    | none => h

/-- Add the identity of a token to the header fields. -/
def publishIdentity (h : Headers) (c : Token.Claims) : Headers :=
  let h := setIfAbsent h userField c.subject
  let h := setIfAbsent h assertedField (c.assertedId.getD c.subject)
  match c.organization with
  | some code => setIfAbsent h organizationField code
  | none => h

/-! ### The log -/

/-- What is logged of a request. -/
structure LogRecord where
  /-- The method. -/
  method : String
  /-- The target. -/
  uri : String
  /-- The caller. -/
  subject : String
  /-- A line for each header field. -/
  headers : List String
deriving DecidableEq

/-- The header fields whose values are never logged. -/
def redactedFields : List String := [tokenField, keyField, authorizationField]

/-- The line for a header field. -/
def logLine (f : String × List UInt8) : String :=
  let shown := if redactedFields.contains f.1 then "<redacted>"
    else (valueText? f.2).getD "<binary>"
  f.1 ++ ": " ++ shown

/-- The record of a request that a token lets pass. -/
def logRecord (r : Request) (c : Token.Claims) : LogRecord :=
  ⟨r.method, r.uri.render, c.subject, r.headers.map logLine⟩

end CredentialGateway.Server
