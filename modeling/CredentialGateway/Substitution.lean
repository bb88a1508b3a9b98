/-
References replaced by the values they name.

A string falls under the first rule that applies: it is a name itself; or it is
`env:` and a name; or it holds references, each of which is replaced if its name is
known.  What a value contains is never looked at again.  The functions that end in
`?` answer nothing when no rule replaced anything; replacing a reference by the text
it was written with is a replacement too.
-/
import CredentialGateway.Bearer
import CredentialGateway.Form
import CredentialGateway.Json.Value
import CredentialGateway.Reference
import CredentialGateway.Store

namespace CredentialGateway

namespace Reference.Segment

/-- The name of a reference whose value is known. -/
def resolves (get : Lookup) : Segment → Bool
  | .literal _ => false
  | .reference name _ => (get name).isSome

/-- The value of a reference that is known, else the text itself. -/
def replaced (get : Lookup) : Segment → List Char
  | .literal c => [c]
  | .reference name written => ((get name).map String.toList).getD written

end Reference.Segment

namespace Substitution

/-- The start of an explicit reference to a name. -/
def envStart : List Char := ['e', 'n', 'v', ':']

/-- The name behind `env:`. -/
def envName? (s : String) : Option String :=
  (Text.after? envStart s.toList).map String.ofList

/-- Replace the references in a text, if any of them is known. -/
def interpolate? (get : Lookup) (s : String) : Option String :=
  let segments := Reference.segments s.toList
  if segments.any fun seg => seg.resolves get then
    some (String.ofList (segments.flatMap fun seg => seg.replaced get))
  else none

/-- Replace the references in a text. -/
def interpolate (get : Lookup) (s : String) : String :=
  (interpolate? get s).getD s

/-- What a string stands for by the first rule that applies. -/
def string? (get : Lookup) (s : String) : Option String :=
  match get s with
  | some value => some value
  | none =>
    match envName? s with
    | some name => get name
    | none => interpolate? get s

/-- What a string stands for by the first rule that applies, itself if none does. -/
def string (get : Lookup) (s : String) : String :=
  (string? get s).getD s

/-- The name that a bearer credential refers to, with or without `env:`. -/
def bearerName (value : String) : String :=
  let token := value.toList.drop Bearer.scheme.length
  String.ofList ((Text.after? envStart token).getD token)

/-- The value of the name that an `Authorization` header with the bearer scheme refers to. -/
def bearerValue? (get : Lookup) (name value : String) : Option String :=
  if Text.sameIgnoringCase name.toList "authorization".toList && Bearer.has value then
    get (bearerName value)
  else none

/-- What a header value stands for: a bearer credential that refers to a name is replaced, else a
value that is a name, else the references in it. -/
def header? (get : Lookup) (name value : String) : Option String :=
  match bearerValue? get name value with
  | some secret => some ("Bearer " ++ secret)
  | none =>
    match get value with
    | some secret => some secret
    | none => interpolate? get value

/-- Replace references in the values of a query string; it is written anew only if one of them
changes. -/
def query? (get : Lookup) (raw : String) : Option String :=
  let pairs := Form.parse raw
  if pairs.any fun p => (string? get p.2).isSome then
    some (String.ofList (Form.render (pairs.map fun p => (p.1, string get p.2))))
  else none

/-- Replace references in the values of a query string. -/
def query (get : Lookup) (raw : String) : String :=
  (query? get raw).getD raw

end Substitution

namespace Json

mutual

/-- Apply a function to every string of a value, names apart. -/
def mapStrings (f : String → String) : Json → Json
  | .string s => .string (f s)
  | .array items => .array (mapItems f items)
  | .object members => .object (mapMembers f members)
  | other => other

/-- Apply a function to every string of an array's items. -/
def mapItems (f : String → String) : List Json → List Json
  | [] => []
  | v :: vs => mapStrings f v :: mapItems f vs

/-- Apply a function to every string of an object's members. -/
def mapMembers (f : String → String) : List (String × Json) → List (String × Json)
  | [] => []
  | (k, v) :: ms => (k, mapStrings f v) :: mapMembers f ms

end

mutual

/-- Whether some string of a value, names apart, is of a kind. -/
def anyString (p : String → Bool) : Json → Bool
  | .string s => p s
  | .array items => anyItem p items
  | .object members => anyMember p members
  | _ => false

/-- Whether some string of an array's items is of a kind. -/
def anyItem (p : String → Bool) : List Json → Bool
  | [] => false
  | v :: vs => anyString p v || anyItem p vs

/-- Whether some string of an object's members is of a kind. -/
def anyMember (p : String → Bool) : List (String × Json) → Bool
  | [] => false
  | (_, v) :: ms => anyString p v || anyMember p ms

end

/-- Replace the references in every string of a value. -/
def substitute (get : Lookup) (v : Json) : Json :=
  v.mapStrings (Substitution.string get)

/-- Whether there is anything to replace. -/
def isSubstituted (get : Lookup) (v : Json) : Bool :=
  v.anyString fun s => (Substitution.string? get s).isSome

end Json

end CredentialGateway
