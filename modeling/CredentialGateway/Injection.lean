/-
Backends that expect their key inside the body of a request.

Such a backend is known by an entry with its URL, which is paired with an entry for
its key.  When a request goes to that URL or further down its path, the open
credential slots of its body are filled: members with a name that speaks of a
credential, holding a string that is empty or still a reference.
-/
import CredentialGateway.Json.Value
import CredentialGateway.Store
import CredentialGateway.Substitution
import CredentialGateway.Text.Case

namespace CredentialGateway

namespace Injection

/-- The entries for the URL and the key of each such backend. -/
def pairs : List (String × String) :=
  [("TEXT_TO_IMAGE_API_BASE_URL", "TEXT_TO_IMAGE_ACCESS_KEY"),
    ("VOICE_UNDERSTANDING_API_BASE_URL", "VOICE_UNDERSTANDING_API_KEY"),
    ("BING_SUBSCRIPTION_ENDPOINT", "BING_SUBSCRIPTION_KEY")]

/-- Whether a URL is the given one or continues it with a slash. -/
def continues (url special : String) : Bool :=
  match Text.after? special.toList url.toList with
  | some rest => rest.isEmpty || rest.head? = some '/'
  | none => false

/-- The key of one pair, if the pair is configured and its URL matches. -/
def keyOfPair? (get : Lookup) (url : String) (pair : String × String) : Option String :=
  match (get pair.1).filter fun u => !u.isEmpty with
  | some special => if continues url special then get pair.2 else none
  | none => none

/-- The key for a URL: that of the first pair that gives one. -/
def keyFor? (get : Lookup) (url : String) : Option String :=
  pairs.findSome? (keyOfPair? get url)

/-- The words by which a name speaks of a credential. -/
def markers : List String :=
  ["api_key", "apikey", "access_key", "accesskey", "key", "token", "authorization",
    "text_to_image_access_key", "voice_understanding_api_key", "bing_subscription_key"]

/-- Whether a name speaks of a credential, in any case. -/
def isCredentialName (name : String) : Bool :=
  let lower := Text.lower name.toList
  markers.any fun m => Text.occursIn m.toList lower

/-- Whether a value leaves its slot open: it is empty, or still a reference. -/
def isOpen (value : String) : Bool :=
  value.isEmpty || Substitution.envStart.isPrefixOf value.toList || value.toList.contains '$'

/-- Whether a member is an open credential slot. -/
def isSlot (name : String) : Json → Bool
  | .string s => isCredentialName name && isOpen s
  | _ => false

end Injection

namespace Json

open Injection

mutual

/-- Put a key into every open credential slot. -/
def fill (key : String) : Json → Json
  | .array items => .array (fillItems key items)
  | .object members => .object (fillMembers key members)
  | other => other

/-- Fill the slots of an array's items. -/
def fillItems (key : String) : List Json → List Json
  | [] => []
  | v :: vs => fill key v :: fillItems key vs

/-- Fill the slots of an object's members. -/
def fillMembers (key : String) : List (String × Json) → List (String × Json)
  | [] => []
  | (k, v) :: ms => (k, if isSlot k v then .string key else fill key v) :: fillMembers key ms

end

mutual

/-- Whether there is an open credential slot. -/
def hasSlot : Json → Bool
  | .array items => hasSlotItem items
  | .object members => hasSlotMember members
  | _ => false

/-- Whether there is an open credential slot among an array's items. -/
def hasSlotItem : List Json → Bool
  | [] => false
  | v :: vs => hasSlot v || hasSlotItem vs

/-- Whether there is an open credential slot among an object's members. -/
def hasSlotMember : List (String × Json) → Bool
  | [] => false
  | (k, v) :: ms => isSlot k v || hasSlot v || hasSlotMember ms

end

/-- Fill the open slots of a body that goes to a URL. -/
def inject (get : Lookup) (url : String) (v : Json) : Json :=
  match keyFor? get url with
  | some key => v.fill key
  | none => v

/-- Whether filling the slots of a body that goes to a URL changes anything. -/
def isInjected (get : Lookup) (url : String) (v : Json) : Bool :=
  (keyFor? get url).isSome && v.hasSlot

end Json

end CredentialGateway
