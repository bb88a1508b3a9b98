/-
What can go wrong in the gateway, and how each failure is told.
-/
import CredentialGateway.Text.Quoted

namespace CredentialGateway

/-- A failure of the gateway, by its cause. -/
inductive Failure where
  /-- The gateway itself is at fault. -/
  | internal (message : String)
  /-- The configuration is missing or malformed. -/
  | config (message : String)
  /-- A credential is missing, forged, expired or revoked. -/
  | unauthorised (message : String)
  /-- No backend serves the path. -/
  | noRoute (path : String)
  /-- The caller sent what the gateway cannot act on. -/
  | invalidRequest (message : String)
  /-- A backend cannot be reached or broke off. -/
  | external (service message : String)
  /-- A backend did not answer in time. -/
  | timeout (message : String)
deriving DecidableEq

namespace Failure

/-- The name of the failure's kind. -/
def kind : Failure → String
  | internal _ => "Internal"
  | config _ => "Config"
  | unauthorised _ => "AuthFailure"
  | noRoute _ => "NoRoute"
  | invalidRequest _ => "InvalidRequest"
  | external _ _ => "ExternalService"
  | timeout _ => "Timeout"

/-- The failure in words. -/
def message : Failure → String
  | internal m | config m | unauthorised m | invalidRequest m | timeout m => m
  | noRoute path => "No backend configured for path: /" ++ path
  | external service m => service ++ ": " ++ m

/-- The kind and the words in one line. -/
def line (f : Failure) : String :=
  f.kind ++ ": " ++ f.message

/-- The failure described by its kind and message. -/
def describe (f : Failure) : String :=
  "GatewayError \x7b kind: " ++ f.kind ++ ", message: " ++ Text.quoteString f.message ++ " \x7d"

end Failure

end CredentialGateway
