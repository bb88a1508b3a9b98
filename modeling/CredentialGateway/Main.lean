/-
The command line.

It reads the environment and the nearest `.env` file, starts a gateway and says so.
What carries requests to it hands each one to `Server.handle`.
-/
import CredentialGateway.CommandLine
import CredentialGateway.Dotenv
import CredentialGateway.Server.Handle

namespace CredentialGateway

/-- The variables of the process, as far as they are text. -/
def processEnvironment : IO Dotenv.Environment := do
  let block ← IO.FS.readBinFile "/proc/self/environ"
  let entries := (Text.pieces 0 block.toList).filterMap Utf8.decode?
  return entries.filterMap fun entry =>
    (Text.splitFirst? '=' entry).map fun (name, value) =>
      (String.ofList name, String.ofList value)

/-- A file, if it can be read. -/
def contents? (path : String) : IO (Option (List UInt8)) := do
  try
    let octets ← IO.FS.readBinFile path
    return some octets.toList
  catch _ => return none

/-- The directories above a directory, given by its names, and itself in front. -/
def ascent : (names : List String) → List String
  | [] => ["/"]
  | name :: names => ("/" ++ "/".intercalate (name :: names).reverse ++ "/") :: ascent names

/-- The variables that the gateway starts with. -/
def startEnvironment : IO Dotenv.Environment := do
  let here := ((← IO.currentDir).toString.splitOn "/").filter fun name => !name.isEmpty
  let files ← (ascent here.reverse).mapM fun directory => contents? (directory ++ ".env")
  return Dotenv.loadNearest (← processEnvironment) files

/-- Say how the gateway starts. -/
def announce (r : Gateway.Report) : IO Unit := do
  if r.nothingStored then
    IO.println "No backend configuration loaded, proxied requests will find no route"
  if r.cannotSign then IO.println "No signing key configured, signing endpoints are disabled"
  let fields := r.fields.map fun (name, value) => name ++ "=" ++ value
  IO.println (" ".intercalate ("Starting magic-gateway server" :: fields))

/-- Start a gateway with options. -/
def launch (o : CommandLine.Options) : IO UInt32 := do
  match Gateway.start o (← startEnvironment) with
  | .ok g =>
    announce g.report
    return 0
  | .error failure =>
    IO.eprintln ("Error: " ++ failure.describe)
    return 1

end CredentialGateway

open CredentialGateway in
/-- Act on the arguments of the program. -/
def main (args : List String) : IO UInt32 := do
  match CommandLine.parse args with
  | .help =>
    IO.println CommandLine.helpText
    return 0
  | .version =>
    IO.println CommandLine.versionText
    return 0
  | .refused =>
    IO.eprintln "The arguments are not understood; see --help."
    return 2
  | .run o => launch o
