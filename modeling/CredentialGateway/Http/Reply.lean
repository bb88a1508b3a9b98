/-
Answers to requests.
-/
import CredentialGateway.Failure
import CredentialGateway.Http.Headers
import CredentialGateway.Json.Printer

namespace CredentialGateway.Http

/-- An answer. -/
structure Reply where
  /-- The status code. -/
  status : Nat
  /-- The header fields, without the length of the body. -/
  headers : Headers
  /-- The body. -/
  body : List UInt8
  /-- Whether the body broke off. -/
  brokenOff : Bool
deriving DecidableEq

namespace Reply

/-- An answer with a JSON body. -/
def ofJson (status : Nat) (body : Json) : Reply :=
  ⟨status, [("content-type", Utf8.encodeString "application/json")], body.octets, false⟩

/-- The body that tells of an error. -/
def errorBody (label message : String) : Json :=
  .object [("error", .object [("message", .string message), ("type", .string label)])]

/-- An answer that tells of an error. -/
def error (status : Nat) (label message : String) : Reply :=
  ofJson status (errorBody label message)

/-- The status and the label of a failure. -/
def statusOf : Failure → Nat × String
  | .config _ => (500, "configuration_error")
  | .unauthorised _ => (401, "authentication_error")
  | .noRoute _ => (404, "no_route_error")
  | .invalidRequest _ => (400, "invalid_request_error")
  | .external _ _ => (502, "external_service_error")
  | .timeout _ => (504, "timeout_error")
  | .internal _ => (500, "server_error")

/-- The answer that tells of a failure. -/
def ofFailure (f : Failure) : Reply :=
  error (statusOf f).1 (statusOf f).2 f.message

end Reply

end CredentialGateway.Http
