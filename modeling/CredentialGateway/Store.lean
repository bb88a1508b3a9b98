/-
The names and values the gateway was started with.

Of several values for one name the last one counts.  The signing secret is taken out
of the entries when the store is built, so that no look-up can find it; a store
without a secret does not exist.
-/
import CredentialGateway.Digest.Sha2
import CredentialGateway.Text.Hex
import CredentialGateway.Text.Quoted
import CredentialGateway.Text.Utf8

namespace CredentialGateway

/-- A way to look up the value of a name. -/
abbrev Lookup := String → Option String

/-- The name under which the signing secret is given. -/
def Store.secretName : String := "MAGIC_GATEWAY_API_KEY"

/-- The entries and the signing secret, kept apart. -/
structure Store where
  /-- The entries that may be referred to by name. -/
  entries : List (String × String)
  /-- The secret that signs the gateway's own tokens. -/
  secret : String
  /-- Each name has one entry. -/
  distinct : (entries.map Prod.fst).Nodup
  /-- The secret is no entry. -/
  apart : Store.secretName ∉ entries.map Prod.fst
  /-- The secret is not empty. -/
  secret_ne : secret ≠ ""

namespace Store

/-- Of several pairs with one name keep the last. -/
def latest : List (String × String) → List (String × String)
  | [] => []
  | e :: rest => if e.1 ∈ rest.map Prod.fst then latest rest else e :: latest rest

theorem latest_subset (pairs : List (String × String)) : latest pairs ⊆ pairs := by
  induction pairs with
  | nil => simp [latest]
  | cons e rest ih =>
    simp only [latest]
    split
    · exact fun x hx => List.mem_cons_of_mem _ (ih hx)
    · exact List.cons_subset_cons e ih

theorem nodup_latest (pairs : List (String × String)) :
    ((latest pairs).map Prod.fst).Nodup := by
  induction pairs with
  | nil => simp [latest]
  | cons e rest ih =>
    simp only [latest]
    split
    · exact ih
    · rename_i fresh
      rw [List.map_cons, List.nodup_cons]
      exact ⟨fun found => fresh (List.map_subset _ (latest_subset rest) found), ih⟩

/-- The pairs that are entries: those with another name than the secret. -/
def others (pairs : List (String × String)) : List (String × String) :=
  pairs.filter fun e => e.1 ≠ secretName

theorem nodup_others {pairs : List (String × String)} (h : (pairs.map Prod.fst).Nodup) :
    ((others pairs).map Prod.fst).Nodup :=
  List.Pairwise.sublist (List.Sublist.map _ List.filter_sublist) h

theorem secretName_not_mem_others (pairs : List (String × String)) :
    secretName ∉ (others pairs).map Prod.fst := by
  simp [others]

/-- The value of the first pair with a name. -/
def valueIn (pairs : List (String × String)) (name : String) : Option String :=
  (pairs.find? fun e => e.1 = name).map Prod.snd

/-- The store of a list of pairs; it exists if the last secret they give is not empty. -/
def ofPairs? (pairs : List (String × String)) : Option Store :=
  let secret := (valueIn (latest pairs) secretName).getD ""
  if h : secret = "" then none
  else some {
    entries := others (latest pairs)
    secret := secret
    distinct := nodup_others (nodup_latest pairs)
    apart := secretName_not_mem_others _
    secret_ne := h }

/-- The failure of a start without a secret. -/
def secretMissing : String :=
  secretName ++ " must be set"

/-- The value of an entry. -/
def get (s : Store) : Lookup :=
  valueIn s.entries

/-- The number of entries. -/
def size (s : Store) : Nat :=
  s.entries.length

/-- Whether there are no entries. -/
def isEmpty (s : Store) : Bool :=
  s.entries.isEmpty

/-- The name of the live secret: the first eight octets of its SHA-256 digest. -/
def keyId (s : Store) : String :=
  Hex.encodeString ((Sha2.sha256.digest (Utf8.encodeString s.secret)).take 8)

/-- How the names begin that may be reported. -/
def reportedStarts : List String :=
  ["OPENAI_", "MAGIC_", "DEEPSEEK_", "API_", "PUBLIC_"]

/-- Whether a name may be reported. -/
def isReported (name : String) : Bool :=
  reportedStarts.any fun start => start.toList.isPrefixOf name.toList

/-- Put a name into a sorted list of names. -/
def insertSorted (name : String) : List String → List String
  | [] => [name]
  | n :: rest => if name ≤ n then name :: n :: rest else n :: insertSorted name rest

/-- The names that may be reported, sorted. -/
def reportedNames (s : Store) : List String :=
  ((s.entries.map Prod.fst).filter isReported).foldr insertSorted []

/-- The store described without any value. -/
def describe (s : Store) : String :=
  "SecretStore \x7b entries: " ++ toString s.size ++ ", key_id: " ++ Text.quoteString s.keyId ++
    ", .. \x7d"

end Store

end CredentialGateway
