/-
Backends that are reached by name.

A service is configured by two entries that start with its name, one for its base URL
and one for its key; a third may name its model.  Callers learn of a service only its
name, its host and its model.
-/
import CredentialGateway.Json.Record
import CredentialGateway.Store
import CredentialGateway.Text.Case
import CredentialGateway.Text.Cut
import CredentialGateway.Url

namespace CredentialGateway

/-- What is told about a service. -/
structure Service where
  /-- The name in upper case. -/
  name : String
  /-- The host of its base URL. -/
  host : String
  /-- The model it uses by default. -/
  model : Option String
deriving DecidableEq

namespace Service

/-- The names of the services that can be configured. -/
def supported : List String := ["OPENAI", "MAGIC", "DEEPSEEK"]

/-- The end of the names of base URLs. -/
def baseUrlEnd : String := "_API_BASE_URL"

/-- The end of the names of keys. -/
def keyEnd : String := "_API_KEY"

/-- The end of the names of models. -/
def modelEnd : String := "_MODEL"

/-- The base URL and the key of a service, in any case, if it has both. -/
def credentials? (get : Lookup) (name : String) : Option (String × String) := do
  let name := Text.upperString name
  let url ← get (name ++ baseUrlEnd)
  let key ← get (name ++ keyEnd)
  return (url, key)

/-- The supported services that have a base URL and a key. -/
def available (get : Lookup) : List String :=
  supported.filter fun name => (credentials? get name).isSome

/-- The host of a URL.  Of a text that is no URL with a host, what stands between the second
and the third slash, or all of it if there is no second slash. -/
def bareHost (url : String) : String :=
  match (Url.parse? url).bind Url.hostText? with
  | some host => host
  | none => (((Text.pieces '/' url.toList)[2]?).map String.ofList).getD url

/-- What is told about a service that is available. -/
def describe? (get : Lookup) (name : String) : Option Service :=
  (credentials? get name).map fun c => ⟨name, bareHost c.1, get (name ++ modelEnd)⟩

/-- What is told about the available services. -/
def descriptions (get : Lookup) : List Service :=
  (available get).filterMap (describe? get)

/-- A description as a JSON object. -/
def toJson (s : Service) : Json :=
  .object ([("name", .string s.name), ("base_url", .string s.host)] ++
    (s.model.map fun m => ("default_model", Json.string m)).toList)

/-- The description that a text writes. -/
def ofWritten? (w : Json.Written) : Option Service := do
  let [name, host, model] ← Json.fields? ["name", "base_url", "default_model"] w | none
  return ⟨← name.required Json.Written.string?, ← host.required Json.Written.string?,
    ← model.optional Json.Written.string?⟩

end Service

end CredentialGateway
