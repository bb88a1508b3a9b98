/-
The gateway's own endpoints.
-/
import CredentialGateway.Form
import CredentialGateway.Gateway
import CredentialGateway.Http.Request
import CredentialGateway.Server.Access
import CredentialGateway.Server.Message
import CredentialGateway.Service

namespace CredentialGateway.Server

open Http

/-! ### Paths and methods -/

/-- An endpoint of the gateway. -/
inductive Endpoint where
  /-- Exchange of the gateway's key for a token. -/
  | exchange
  /-- The state of the gateway. -/
  | status
  /-- The names that can be referred to. -/
  | names
  /-- The services that can be reached. -/
  | services
  /-- Revocation of a single token. -/
  | revoke
  /-- Revocation of all tokens. -/
  | revokeAll
  /-- Signature of an object. -/
  | signMetadata
  /-- Signature of a text. -/
  | signPayload
deriving DecidableEq

namespace Endpoint

/-- The endpoints with their paths. -/
def table : List (String × Endpoint) :=
  [("/auth", exchange), ("/status", status), ("/env", names), ("/services", services),
    ("/revoke", revoke), ("/revoke-all", revokeAll),
    ("/api/ai-generated/sign-metadata", signMetadata),
    ("/api/ai-generated/sign-payload", signPayload)]

/-- Whether an endpoint only reports. -/
def isReport : Endpoint → Bool
  | status | names | services => true
  | _ => false

/-- Whether an endpoint answers a method. -/
def answers (e : Endpoint) (method : String) : Bool :=
  if e.isReport then method = "GET" || method = "HEAD" else method = "POST"

/-- The methods of an endpoint, as a header value. -/
def allowed (e : Endpoint) : String :=
  if e.isReport then "GET,HEAD" else "POST"

/-- Whether an endpoint takes the body of a request. -/
def takesBody : Endpoint → Bool
  | revoke | signMetadata | signPayload => true
  | _ => false

end Endpoint

/-- The endpoint of a request, whatever its method; all else is for the backends. -/
def endpointOf (r : Request) : Option Endpoint :=
  Endpoint.table.lookup r.uri.pathText

/-! ### Bodies -/

/-- The most octets of a body that an endpoint takes. -/
def maxBody : Nat := 2 * 1024 * 1024

/-- The answer to a body that cannot be taken. -/
def bodyRefused (status : Nat) (cause : String) : Reply :=
  ⟨status, [("content-type", Utf8.encodeString "text/plain; charset=utf-8")],
    Utf8.encodeString ("Failed to buffer the request body: " ++ cause), false⟩

/-- The octets that an endpoint takes of a body, or the answer to a body that cannot be taken. -/
def bodyFor (e : Endpoint) (b : Body) : Except Reply (List UInt8) :=
  if !e.takesBody then .ok []
  else if maxBody < b.octets.length then .error (bodyRefused 413 "length limit exceeded")
  else match b.fault with
    | some cause => .error (bodyRefused 400 cause)
    | none => .ok b.octets

/-! ### Token exchange -/

/-- The identity that header fields give. -/
def callerOf (h : Headers) : Caller :=
  ⟨fieldText? h userField, fieldText? h assertedField, fieldText? h organizationField⟩

/-- Whether header fields give the gateway's key. -/
def hasKey (g : Gateway) (h : Headers) : Bool :=
  let given := (h.text? keyField).getD ""
  !given.isEmpty && given = g.store.secret

/-- Exchange the gateway's key for a token. -/
def exchange (mac : Token.Mac) (g : Gateway) (o : Token.Occasion) (h : Headers) :
    Reply × Gateway :=
  if hasKey g h then
    let (issued, authority) := g.authority.issue mac (callerOf h) o
    (.ofJson 200 (TokenGrant.ofToken issued.token).toJson, { g with authority := authority })
  else (.ofFailure (.unauthorised "Invalid gateway API key"), g)

/-! ### Reports -/

/-- A list of strings. -/
def stringList (ss : List String) : Json :=
  .array (ss.map .string)

/-- The state of the gateway. -/
def statusReport (g : Gateway) : Json :=
  .object [("status", .string "ok"), ("version", .string g.settings.version),
    ("auth_mode", .string "stateless_jwt"),
    ("token_validity", .string (toString (Token.validity.toNat / 86400) ++ " days")),
    ("env_vars_available", stringList g.store.reportedNames),
    ("services_available", stringList (Service.available g.store.get)),
    ("current_token_version", .integer g.authority.version.toNat),
    ("global_revoke_timestamp", .integer g.authority.cutoff.toNat),
    ("jwt_key_id", .string g.authority.keyId), ("jwt_algorithm", .string "HS256")]

/-- The note on reports about names. -/
def namesNote : Json :=
  .string "Configuration values are never returned; reference these names through proxied requests"

/-- The names that a query asks for: those of its last list. -/
def namesAsked (query : Option String) : List String :=
  let params := (query.map Form.parse).getD []
  ((params.reverse.find? fun p => p.1 = "vars").map fun p => Text.nameList p.2).getD []

/-- The names that can be referred to, or whether those that are asked for can. -/
def namesReport (g : Gateway) (query : Option String) : Json :=
  let known := g.store.reportedNames
  match namesAsked query with
  | [] => .object [("available_vars", stringList known), ("message", namesNote)]
  | asked =>
    let found := asked.map fun name => (name, Json.bool (known.contains name))
    .object [("available_status", .object (Json.sortMembers found)), ("message", namesNote)]

/-- The services that can be reached. -/
def servicesReport (g : Gateway) : Json :=
  .object [("available_services", .array ((Service.descriptions g.store.get).map Service.toJson)),
    ("message",
      .string "Call these services through the proxy as /\x7bservice\x7d/path or with env: references")]

/-! ### Revocation -/

/-- The answer to a request that cannot be read. -/
def invalidRequest (message : String) : Reply :=
  .error 400 "invalid_request_error" message

/-- Single tokens cannot be revoked: the request is only read. -/
def revokeOne (body : List UInt8) : Reply :=
  match readBody? revocation? body with
  | none => invalidRequest "Request body must be JSON with a token_id field"
  | some _ =>
    .ofJson 200 <| .object [("success", .bool true),
      ("message",
        .string "Single tokens cannot be revoked in stateless mode; use /revoke-all")]

/-- Revoke all tokens that were created before now. -/
def revokeAll (g : Gateway) (now : UInt64) : Reply × Gateway :=
  let authority := g.authority.revoke now
  (.ofJson 200 <| .object [("success", .bool true),
      ("message", .string "All previously issued tokens have been revoked"),
      ("revoke_timestamp", .integer authority.cutoff.toNat)],
    { g with authority := authority })

/-! ### Signatures -/

/-- The answer that carries a signature. -/
def signed (signature : String) : Reply :=
  .ofJson 200 (.object [("signature", .string signature)])

/-- The answer of a gateway without a key for signing. -/
def noContentKey : Reply :=
  .error 503 "signing_unavailable" "Signing is not configured on this gateway"

/-- Sign an object. -/
def signMetadata (g : Gateway) (body : List UInt8) : Reply :=
  match g.contentKey with
  | none => noContentKey
  | some key =>
    match readBody? metadata? body with
    | none => invalidRequest "Invalid request body"
    | some object => signed (key.signJson object)

/-- Sign a text. -/
def signPayload (g : Gateway) (body : List UInt8) : Reply :=
  match g.contentKey with
  | none => noContentKey
  | some key =>
    match readBody? payload? body with
    | none => invalidRequest "Invalid request body"
    | some text =>
      if text.isEmpty then invalidRequest "payload is required"
      else signed (key.sign (Utf8.encodeString text))

/-! ### All of them -/

/-- The answer of an endpoint to a request and what it takes of the body, and the gateway behind
it. -/
def answer (mac : Token.Mac) (g : Gateway) (o : Token.Occasion) (e : Endpoint) (r : Request)
    (body : List UInt8) : Reply × Gateway :=
  match e with
  | .exchange => exchange mac g o r.headers
  | .status => (.ofJson 200 (statusReport g), g)
  | .names => (.ofJson 200 (namesReport g r.uri.queryText), g)
  | .services => (.ofJson 200 (servicesReport g), g)
  | .revoke => (revokeOne body, g)
  | .revokeAll => revokeAll g o.now
  | .signMetadata => (signMetadata g body, g)
  | .signPayload => (signPayload g body, g)

/-- The answer to a method that an endpoint does not have. -/
def methodNotAllowed (e : Endpoint) : Reply :=
  ⟨405, [("allow", Utf8.encodeString e.allowed)], [], false⟩

end CredentialGateway.Server
