/-
The gateway between two requests.

Its names, values, settings and keys are fixed when it starts; from then on only the
token authority changes.
-/
import CredentialGateway.ContentKey
import CredentialGateway.Failure
import CredentialGateway.Settings
import CredentialGateway.Store
import CredentialGateway.Token.Authority

namespace CredentialGateway

/-- A gateway. -/
structure Gateway where
  /-- Its names and values. -/
  store : Store
  /-- Its settings. -/
  settings : Settings
  /-- Its key for signing content, if it has one. -/
  contentKey : Option ContentKey
  /-- Its token authority. -/
  authority : Token.Authority

namespace Gateway

/-- The store of pairs of names and values. -/
def storeOf (pairs : List (String × String)) : Except Failure Store :=
  match Store.ofPairs? pairs with
  | some store => .ok store
  | none => .error (.config Store.secretMissing)

/-- The settings of a store. -/
def settingsOf (store : Store) : Except Failure Settings :=
  (Settings.ofLookup store.get).mapError fun fault => .config fault.message

/-- The key for signing content that settings give. -/
def contentKeyOf (s : Settings) : Except Failure (Option ContentKey) :=
  match s.contentKey with
  | none => .ok none
  | some text =>
    match ContentKey.ofBase64 text with
    | .ok key => .ok (some key)
    | .error fault => .error (.config fault.message)

/-- The gateway of a store at the start. -/
def ofStore (store : Store) (settings : Settings) : Except Failure Gateway := do
  return ⟨store, settings, ← contentKeyOf settings, .ofStore store⟩

end Gateway

end CredentialGateway
