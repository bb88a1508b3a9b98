/-
The options of the program, and the gateway that it starts with them.

Arguments are read from the left.  The first one that asks for help or for the version,
or that is refused, decides.
-/
import CredentialGateway.Gateway

namespace CredentialGateway

namespace CommandLine

/-- What the arguments ask for; it goes before the settings of the store. -/
structure Options where
  /-- The port to listen on. -/
  port : Option UInt16
  /-- The host to listen on. -/
  host : Option String
  /-- Whether requests are to be logged in detail. -/
  debug : Bool
  /-- How long to wait for a backend, in seconds. -/
  waitSeconds : Option Nat
deriving DecidableEq

/-- No options. -/
def Options.none : Options := ⟨.none, .none, false, .none⟩

/-- What a list of arguments comes to. -/
inductive Outcome where
  /-- Start with options. -/
  | run (o : Options)
  /-- Show the help. -/
  | help
  /-- Show the version. -/
  | version
  /-- The arguments are refused. -/
  | refused
deriving DecidableEq

/-- The name and version of the program. -/
def versionText : String := "magic-gateway-server 0.4.0"

/-- The help. -/
def helpText : String :=
  "Usage: magic-gateway-server [OPTIONS]\n\n" ++
  "Options:\n" ++
  "      --port <PORT>\n" ++
  "      --host <HOST>\n" ++
  "      --debug\n" ++
  "      --upstream-timeout-secs <UPSTREAM_TIMEOUT_SECS>\n" ++
  "  -h, --help\n" ++
  "  -V, --version"

/-- A port; zero may have a minus sign. -/
def port? (text : String) : Option UInt16 :=
  let n := match text.toList with
    | '-' :: '+' :: _ => Except.error Decimal.Fault.invalidDigit
    | '-' :: digits => Decimal.read 0 digits
    | digits => Decimal.read 65535 digits
  n.toOption.map UInt16.ofNat

/-- Set an option that takes a value; an option may be set once. -/
def set? (o : Options) (name value : String) : Option Options :=
  match name with
  | "port" => if o.port.isSome then .none else (port? value).map fun n => { o with port := some n }
  | "host" => if o.host.isSome then .none else some { o with host := some value }
  | "upstream-timeout-secs" =>
    if o.waitSeconds.isSome then .none
    else (Decimal.read (UInt64.size - 1) value.toList).toOption.map fun n =>
      { o with waitSeconds := some n }
  | _ => .none

/-- The options that take a value. -/
def valued : List String := ["port", "host", "upstream-timeout-secs"]

/-- What a single argument is. -/
inductive Argument where
  /-- A request for help. -/
  | help
  /-- A request for the version. -/
  | version
  /-- The switch for detailed logs. -/
  | debug
  /-- The end of the options. -/
  | finish
  /-- An option with its value. -/
  | assign (name value : String)
  /-- An option whose value follows. -/
  | wants (name : String)
  /-- Anything else. -/
  | other
deriving DecidableEq

/-- A long argument, behind its two dashes. -/
def long (text : List Char) : Argument :=
  match Text.splitFirst? '=' text with
  | some (name, value) =>
    if valued.contains (String.ofList name) then
      .assign (String.ofList name) (String.ofList value)
    else .other
  | .none =>
    match String.ofList text with
    | "" => .finish
    | "help" => .help
    | "version" => .version
    | "debug" => .debug
    | name => if valued.contains name then .wants name else .other

/-- What an argument is. -/
def classify (arg : String) : Argument :=
  match arg.toList with
  | '-' :: '-' :: text => long text
  | '-' :: 'h' :: _ => .help
  | '-' :: 'V' :: _ => .version
  | _ => .other

/-- Whether an argument starts like an option, so that it is no value. -/
def isDashed (arg : String) : Bool :=
  match arg.toList with
  | '-' :: _ :: _ => true
  | _ => false

/-- Read arguments from the left, with the options set so far. -/
def parseFrom (o : Options) : List String → Outcome
  | [] => .run o
  | arg :: rest =>
    match classify arg with
    | .help => .help
    | .version => .version
    | .other => .refused
    | .finish => if rest.isEmpty then .run o else .refused
    | .debug => if o.debug then .refused else parseFrom { o with debug := true } rest
    | .assign name value =>
      match set? o name value with
      | some o => parseFrom o rest
      | .none => .refused
    | .wants name =>
      match rest with
      | [] => .refused
      | value :: rest =>
        if isDashed value then .refused
        else match set? o name value with
          | some o => parseFrom o rest
          | .none => .refused

/-- Read the arguments. -/
def parse (args : List String) : Outcome :=
  parseFrom .none args

/-- Settings with the options put over them. -/
def Options.over (o : Options) (s : Settings) : Settings :=
  { s with
    port := o.port.getD s.port
    host := o.host.getD s.host
    debug := s.debug || o.debug
    waitMillis := (o.waitSeconds.map (· * 1000)).getD s.waitMillis }

end CommandLine

namespace Gateway

/-- Start a gateway with options in an environment. -/
def start (o : CommandLine.Options) (env : List (String × String)) : Except Failure Gateway := do
  let store ← storeOf env
  ofStore store (o.over (← settingsOf store))

/-- What a gateway says of itself when it starts. -/
structure Report where
  /-- Names and values for the record. -/
  fields : List (String × String)
  /-- Whether there is nothing to refer to. -/
  nothingStored : Bool
  /-- Whether content cannot be signed. -/
  cannotSign : Bool
deriving DecidableEq

/-- The report of a gateway that has just started. -/
def report (g : Gateway) : Report where
  fields := [("address", g.settings.address), ("key_id", g.store.keyId),
    ("entries", toString g.store.size), ("debug", toString g.settings.debug),
    ("upstream_timeout_secs", toString g.settings.waitSeconds)]
  nothingStored := g.store.isEmpty
  cannotSign := g.contentKey.isNone

end Gateway

end CredentialGateway
