/-
Which backend a request goes to.

Six strategies are tried in a fixed order; the first that applies decides, and
nothing that comes later can change its answer.  A path whose first segment is the
name of an entry belongs to that entry alone: if its value is no URL of the web, the
request has no route, whatever else is configured.
-/
import CredentialGateway.Failure
import CredentialGateway.Form
import CredentialGateway.Service
import CredentialGateway.Substitution
import CredentialGateway.Url

namespace CredentialGateway

/-- How a target was found, in the order in which the ways are tried. -/
inductive Strategy where
  /-- The query names a URL. -/
  | targetParam
  /-- The first segment names an entry that holds a URL. -/
  | configName
  /-- The first segment names a service. -/
  | servicePath
  /-- The query names a service. -/
  | serviceParam
  /-- The first segment is the start of an entry's name. -/
  | derivedUrl
  /-- There is a URL for all other requests. -/
  | default
deriving DecidableEq

namespace Strategy

/-- The word for a strategy. -/
def word : Strategy → String
  | targetParam => "target_param"
  | configName => "config_name"
  | servicePath => "service_path"
  | serviceParam => "service_param"
  | derivedUrl => "derived_url"
  | default => "default"

/-- The name of a strategy. -/
def name : Strategy → String
  | targetParam => "TargetParam"
  | configName => "ConfigName"
  | servicePath => "ServicePath"
  | serviceParam => "ServiceParam"
  | derivedUrl => "DerivedUrl"
  | default => "Default"

end Strategy

/-- Where a request goes. -/
structure Target where
  /-- The URL of the backend. -/
  baseUrl : String
  /-- The key of the backend, if it has one. -/
  key : Option String
  /-- What is left of the path. -/
  path : String
  /-- How the target was found. -/
  strategy : Strategy
deriving DecidableEq

namespace Target

/-- Whether a character is a slash. -/
def isSlash (c : Char) : Bool := c == '/'

/-- Whether the request may be given the backend's key. -/
def carriesKey (t : Target) : Bool :=
  t.key.isSome

/-- The URL with a query: base URL and path with one slash between them. -/
def url (t : Target) (query : Option String) : String :=
  let base := Text.trimEnd isSlash t.baseUrl.toList
  let path := Text.trimStart isSlash t.path.toList
  let mark := match query with
    | some q => if q.isEmpty then [] else '?' :: q.toList
    | none => []
  String.ofList (base ++ '/' :: path ++ mark)

/-- The target described without its key. -/
def describe (t : Target) : String :=
  let key := match t.key with
    | some _ => "Some(\"<redacted>\")"
    | none => "None"
  "ResolvedTarget \x7b base_url: " ++ Text.quoteString t.baseUrl ++ ", api_key: " ++ key ++
    ", remaining_path: " ++ Text.quoteString t.path ++ ", strategy: " ++ t.strategy.name ++
    " \x7d"

/-- A request as the strategies see it. -/
structure Request where
  /-- The path without slashes around it. -/
  path : String
  /-- The first segment. -/
  segment : String
  /-- What follows the slash behind the first segment, if there is one. -/
  rest : Option String
  /-- The names and values of the query. -/
  params : List (String × String)

/-- The request for a path and a query. -/
def Request.of (path : String) (query : Option String) : Request :=
  let trimmed := Text.trim isSlash path.toList
  let cut := Text.splitFirst? '/' trimmed
  { path := String.ofList trimmed
    segment := String.ofList ((cut.map Prod.fst).getD trimmed)
    rest := cut.map fun c => String.ofList c.2
    params := (query.map Form.parse).getD [] }

/-- The end of the names of URLs that are found by the start of their name. -/
def urlEnd : String := "_API_URL"

/-- The entry for the URL of all other requests. -/
def defaultName : String := "DEFAULT_API_URL"

/-- Whether a text is a URL of the web. -/
def isWebUrl (text : String) : Bool :=
  match Url.parse? text with
  | some u => Url.isHttp u.scheme
  | none => false

/-- The URL that the query names. -/
def ofTargetParam? (r : Request) : Option Target :=
  (Form.param r.params "target").map fun url => ⟨url, none, r.path, .targetParam⟩

/-- The key beside an entry that holds a URL, by the start that both names share. -/
def siblingKey? (get : Lookup) (name : String) : Option String :=
  let start := (Text.before? Service.baseUrlEnd.toList name.toList).or
    (Text.before? urlEnd.toList name.toList)
  start.bind fun s => get (String.ofList s ++ Service.keyEnd)

/-- The entry that the first segment names, whose value is a URL. -/
def ofConfigName (get : Lookup) (r : Request) (value : String) : Target :=
  ⟨value, siblingKey? get r.segment, r.rest.getD "", .configName⟩

/-- The supported service that the first segment names, with a path behind it. -/
def ofServicePath? (get : Lookup) (r : Request) : Option Target := do
  let rest ← r.rest
  let service := Text.upperString r.segment
  if service ∈ Service.supported then
    let (url, key) ← Service.credentials? get service
    return ⟨url, some key, rest, .servicePath⟩
  else none

/-- The service that the query names. -/
def ofServiceParam? (get : Lookup) (r : Request) : Option Target := do
  let service ← Form.param r.params "service"
  let (url, key) ← Service.credentials? get service
  return ⟨url, some key, r.path, .serviceParam⟩

/-- The entry whose name starts with the first segment, with a path behind it. -/
def ofDerivedUrl? (get : Lookup) (r : Request) : Option Target := do
  let rest ← r.rest
  let start := Text.upperString r.segment
  let url ← get (start ++ urlEnd)
  return ⟨url, get (start ++ Service.keyEnd), rest, .derivedUrl⟩

/-- The URL of all other requests. -/
def ofDefault? (get : Lookup) (r : Request) : Option Target :=
  ((get defaultName).filter fun u => !u.isEmpty).map fun url => ⟨url, none, r.path, .default⟩

/-- The first of the strategies behind the first two that applies. -/
def ofOthers? (get : Lookup) (r : Request) : Option Target :=
  (ofServicePath? get r).or <| (ofServiceParam? get r).or <| (ofDerivedUrl? get r).or <|
    ofDefault? get r

/-- The target before the references in its URL are replaced. -/
def candidate? (get : Lookup) (r : Request) : Option Target :=
  match ofTargetParam? r with
  | some t => some t
  | none =>
    match get r.segment with
    | some value =>
      if isWebUrl (Substitution.interpolate get value) then some (ofConfigName get r value)
      else none
    | none => ofOthers? get r

/-- Replace the references in a target's URL; a blank URL is none. -/
def settle? (get : Lookup) (t : Target) : Option Target :=
  let url := Substitution.interpolate get t.baseUrl
  if (Text.trimBlank url.toList).isEmpty then none else some { t with baseUrl := url }

/-- The target of a path and a query. -/
def resolve (get : Lookup) (path : String) (query : Option String) : Except Failure Target :=
  let r := Request.of path query
  match (candidate? get r).bind (settle? get) with
  | some t => .ok t
  | none => .error (.noRoute r.path)

end Target

end CredentialGateway
