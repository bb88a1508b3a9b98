/-
How the gateway listens and how long it waits, read from the store.
-/
import CredentialGateway.Store
import CredentialGateway.Text.Blank
import CredentialGateway.Text.Decimal

namespace CredentialGateway

/-- The settings of a gateway. -/
structure Settings where
  /-- The host to listen on. -/
  host : String
  /-- The port to listen on. -/
  port : UInt16
  /-- Whether requests are logged in detail. -/
  debug : Bool
  /-- The version that the gateway reports. -/
  version : String
  /-- How long to wait for a backend, in milliseconds. -/
  waitMillis : Nat
  /-- The key for signing content, in Base64. -/
  contentKey : Option String
deriving DecidableEq

namespace Settings

/-- Why the settings cannot be read. -/
inductive Fault where
  /-- The port is not a number up to 65535. -/
  | port (cause : Decimal.Fault)
  /-- The waiting time is not a number of seconds in a 64-bit word. -/
  | wait (cause : Decimal.Fault)
deriving DecidableEq

/-- The entry that holds the port. -/
def portName : String := "MAGIC_GATEWAY_PORT"

/-- The entry that holds the waiting time. -/
def waitName : String := "MAGIC_GATEWAY_UPSTREAM_TIMEOUT_SECS"

/-- The fault in words. -/
def Fault.message : Fault → String
  | .port cause => "Invalid " ++ portName ++ ": " ++ cause.message
  | .wait cause => "Invalid " ++ waitName ++ ": " ++ cause.message

/-- The settings where nothing is set: half an hour of waiting. -/
def default : Settings where
  host := "0.0.0.0"
  port := 8000
  debug := false
  version := "1.0.0"
  waitMillis := 1800 * 1000
  contentKey := none

/-- A number with white space around it allowed. -/
def number (limit : Nat) (text : String) : Except Decimal.Fault Nat :=
  Decimal.read limit (Text.trimBlank text.toList)

/-- A number of seconds that fits a 64-bit word. -/
def seconds (text : String) : Except Decimal.Fault Nat :=
  number (UInt64.size - 1) text

/-- The port, the default one if none is set. -/
def portOf (get : Lookup) : Except Fault UInt16 :=
  match get portName with
  | none => .ok default.port
  | some text =>
    match number 65535 text with
    | .ok n => .ok (UInt16.ofNat n)
    | .error cause => .error (.port cause)

/-- The waiting time in milliseconds, the default one if none is set. -/
def waitOf (get : Lookup) : Except Fault Nat :=
  match get waitName with
  | none => .ok default.waitMillis
  | some text =>
    match seconds text with
    | .ok n => .ok (n * 1000)
    | .error cause => .error (.wait cause)

/-- A text entry that is there and not empty. -/
def textOf (get : Lookup) (name : String) : Option String :=
  (get name).filter fun s => !s.isEmpty

/-- The settings of a store; a wrong port is reported before a wrong waiting time. -/
def ofLookup (get : Lookup) : Except Fault Settings := do
  let port ← portOf get
  let wait ← waitOf get
  return {
    host := (textOf get "MAGIC_GATEWAY_HOST").getD default.host
    port := port
    debug := get "MAGIC_GATEWAY_DEBUG" = some "true"
    version := (get "API_GATEWAY_VERSION").getD default.version
    waitMillis := wait
    contentKey := textOf get "ED25519_PRIVATE_KEY" }

/-- Where the gateway listens. -/
def address (s : Settings) : String :=
  s.host ++ ":" ++ toString s.port.toNat

/-- How long to wait for a backend, in whole seconds. -/
def waitSeconds (s : Settings) : Nat :=
  s.waitMillis / 1000

end Settings

end CredentialGateway
