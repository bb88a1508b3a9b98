/-
Requests passed on to a backend.

The target is found first; then references in header fields, query and body are
replaced, the request is sent, and the answer is handed back.
-/
import CredentialGateway.Http.Client
import CredentialGateway.Http.Request
import CredentialGateway.Injection
import CredentialGateway.Server.Access
import CredentialGateway.Substitution
import CredentialGateway.Target

namespace CredentialGateway.Server

open Http

/-! ### Header fields -/

/-- The header fields that belong to one connection. -/
def connectionFields : List String :=
  ["host", "content-length", "connection", "x-forwarded-for"]

/-- The header fields that are meant for the gateway alone. -/
def gatewayFields : List String := [tokenField, keyField]

/-- The header fields that are passed on as they are. -/
def verbatimFields : List String :=
  ["magic-task-id", "magic-topic-id", "magic-chat-topic-id", "magic-language"]

/-- Whether a header field stays behind. -/
def staysBehind (source : Option Source) (name : String) : Bool :=
  connectionFields.contains name || gatewayFields.contains name ||
    (name = authorizationField && source = some .authorization)

/-- A header value with references replaced, if it is text and the result is legal. -/
def substituteValue (get : Lookup) (name : String) (value : List UInt8) : List UInt8 :=
  if verbatimFields.contains name then value
  else
    (((valueText? value).bind (Substitution.header? get name)).bind value?).getD value

/-- The header fields for a backend, without the key of the backend. -/
def substituteHeaders (get : Lookup) (source : Option Source) (h : Headers) : Headers :=
  (h.filter fun f => !staysBehind source f.1).map fun f => (f.1, substituteValue get f.1 f.2)

/-- Add the key of the backend, unless there is an authorization or the key is not legal. -/
def addKey (t : Target) (h : Headers) : Headers :=
  if h.has authorizationField then h
  else match (t.key.map fun k => "Bearer " ++ k).bind value? with
    | some value => h ++ [(authorizationField, value)]
    | none => h

/-- The header fields for a backend. -/
def outgoingHeaders (get : Lookup) (source : Option Source) (t : Target) (h : Headers) :
    Headers :=
  addKey t (substituteHeaders get source h)

/-! ### The body -/

/-- Whether a body is to be read as JSON: its type says so, or it says nothing. -/
def isJsonBody (h : Headers) : Bool :=
  match h.text? "content-type" with
  | some type => Text.occursIn "json".toList (type.toList.map Text.lowerAscii)
  | none => true

/-- A JSON body with references replaced and open slots filled, if that changes anything. -/
def completeJson? (get : Lookup) (url : String) (v : Json) : Option Json :=
  let substituted := v.substitute get
  if v.isSubstituted get || substituted.isInjected get url then
    some (substituted.inject get url)
  else none

/-- The body for a backend. -/
def outgoingBody (get : Lookup) (url : String) (h : Headers) (body : List UInt8) : List UInt8 :=
  if body.isEmpty || !isJsonBody h then body
  else match (Json.parse? body).bind (completeJson? get url) with
    | some v => v.octets
    | none => body

/-! ### The request and its answer -/

/-- The names that are never passed on, whatever slashes stand around them. -/
def reservedNames : List String :=
  ["auth", "env", "status", "revoke", "revoke-all", "services"]

/-- The path of a request without slashes around it. -/
def innerPath (r : Request) : String :=
  String.ofList (Text.trim Target.isSlash r.uri.path)

/-- The target of a request. -/
def targetOf (get : Lookup) (r : Request) : Except Failure Target :=
  if reservedNames.contains (innerPath r) then .error (.noRoute (innerPath r))
  else Target.resolve get (innerPath r) r.uri.queryText

/-- All of a body. -/
def wholeBody (b : Body) : Except Failure (List UInt8) :=
  match b.fault with
  | some cause => .error (.invalidRequest ("Failed to read request body: " ++ cause))
  | none => .ok b.octets

/-- The request to the backend. -/
def outgoing (get : Lookup) (source : Option Source) (t : Target) (r : Request)
    (body : List UInt8) : Outgoing where
  method := r.method
  url := t.url (r.uri.queryText.map (Substitution.query get))
  headers := outgoingHeaders get source t r.headers
  body := outgoingBody get t.baseUrl r.headers body

/-- What goes out for a request, or why nothing does. -/
def prepared (get : Lookup) (source : Option Source) (r : Request) : Except Failure Outgoing := do
  let t ← targetOf get r
  let body ← wholeBody r.body
  match (outgoing get source t r body).prepare? with
  | some out => return out
  | none => throw (.external "Proxy error" "builder error")

/-- The answer of a backend, without what belongs to its connection. -/
def relay (reply : Reply) : Reply :=
  { reply with
    headers := reply.headers.filter fun f =>
      !connectionFields.contains f.1 && f.1 ≠ "transfer-encoding" }

/-- What the caller is told of a request to a backend. -/
def replyOf : Outcome → Reply
  | .answered reply => relay reply
  | .unreachable => .ofFailure (.external "Proxy error" "error sending request")
  | .late => .ofFailure (.timeout "Upstream request timed out: error sending request")

/-- Pass a request on: the answer, and the request that went out, if one did. -/
def forward (backends : Backends) (get : Lookup) (source : Option Source) (r : Request) :
    Reply × Option Outgoing :=
  match prepared get source r with
  | .error failure => (.ofFailure failure, none)
  | .ok out => (replyOf (backends out), some out)

end CredentialGateway.Server
