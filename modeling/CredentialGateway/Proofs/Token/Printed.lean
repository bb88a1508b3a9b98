/-
The printed header and the printed claims read back.

Both are records with different names, so what the reader finds under each name is
decided by looking the name up among the members that were printed.  A claim that has
no value is not among them, and the reader then finds nothing.
-/
import Mathlib
import CredentialGateway.Proofs.Json.Record
import CredentialGateway.Token.Claims
import CredentialGateway.Token.Header

namespace CredentialGateway.Token

open Json

namespace Claims

/-- The members of the printed claims. -/
def members (c : Claims) : List (String × Json) :=
  [("jti", .string c.id), ("iat", word c.issuedAt), ("nbf", word c.notBefore),
    ("exp", word c.expires), ("container_id", .string c.subject)] ++
    member? "magic_user_id" c.assertedId ++
    member? "magic_organization_code" c.organization ++
    [("token_version", word c.version), ("created_at", word c.createdAt),
      ("kid", .string c.keyId), ("nonce", .string c.nonce), ("scope", .string c.scope)]

theorem toJson_eq (c : Claims) : c.toJson = .object c.members := rfl

theorem isExact_toJson (c : Claims) : isExact c.toJson = true := by
  obtain ⟨_, _, _, _, _, assertedId, organization, _, _, _, _, _⟩ := c
  cases assertedId <;> cases organization <;> rfl

theorem nodup_members (c : Claims) : (c.members.map Prod.fst).Nodup := by
  obtain ⟨_, _, _, _, _, assertedId, organization, _, _, _, _, _⟩ := c
  cases assertedId <;> cases organization <;> simp [members, member?]

theorem given_members (c : Claims) :
    names.map (given c.members) =
      [.value (written (.string c.id)), .value (written (word c.issuedAt)),
        .value (written (word c.notBefore)), .value (written (word c.expires)),
        .value (written (.string c.subject)), givenText c.assertedId,
        givenText c.organization, .value (written (word c.version)),
        .value (written (word c.createdAt)), .value (written (.string c.keyId)),
        .value (written (.string c.nonce)), .value (written (.string c.scope))] := by
  obtain ⟨_, _, _, _, _, assertedId, organization, _, _, _, _, _⟩ := c
  cases assertedId <;> cases organization <;> rfl

/-- **The printed claims are read as themselves.** -/
theorem ofWritten?_toJson (c : Claims) : ofWritten? (written c.toJson) = some c := by
  have hword : ∀ n : UInt64, (written (word n)).word? = some n := word?_written
  rw [ofWritten?, toJson_eq, fields?_written c.nodup_members, given_members]
  simp only [Option.bind_eq_bind, Option.bind_some, Given.required, string?_written, hword,
    defaulted_givenText, Option.pure_def]

/-- The printed claims name no audience. -/
theorem namesAudience?_toJson (c : Claims) : namesAudience? (written c.toJson) = some false := by
  have hfields : ["sub", "iss", "aud"].map (given c.members) = [.absent, .absent, .absent] := by
    obtain ⟨_, _, _, _, _, assertedId, organization, _, _, _, _, _⟩ := c
    cases assertedId <;> cases organization <;> rfl
  simp only [List.map_cons, List.map_nil, List.cons.injEq, and_true] at hfields
  obtain ⟨hsub, hiss, haud⟩ := hfields
  rw [toJson_eq, written, namesAudience?, named?_written]
  simp only [Option.bind_eq_bind, Option.bind_some, member?_written c.nodup_members, hsub, hiss,
    haud]

end Claims

namespace Header

theorem isExact_toJson (a : MacAlgorithm) (keyId : String) : isExact (toJson a keyId) = true := rfl

theorem ofName?_name (a : MacAlgorithm) :
    Algorithm.ofName? (Algorithm.mac a).name = some (.mac a) := by
  cases a <;> rfl

/-- The texts of the printed header. -/
def texts (a : MacAlgorithm) (keyId : String) : List (String × String) :=
  [("typ", "JWT"), ("alg", (Algorithm.mac a).name), ("kid", keyId)]

/-- The members of the printed header. -/
def members (a : MacAlgorithm) (keyId : String) : List (String × Json) :=
  (texts a keyId).map fun m => (m.1, Json.string m.2)

theorem member?_members (a : MacAlgorithm) (keyId name : String) :
    Json.member? ((members a keyId).map fun m => (m.1, written m.2)) name =
      some (givenText ((texts a keyId).lookup name)) := by
  have hnodup : ((members a keyId).map Prod.fst).Nodup := by
    simp [members, texts]
  rw [member?_written hnodup, members, given_texts]

theorem checked_text (a : MacAlgorithm) (keyId name : String) :
    checked ((members a keyId).map fun m => (m.1, written m.2)) Written.string? name = true := by
  rw [checked, member?_members, Option.bind_some, defaulted_givenText]
  rfl

theorem checked_absent {α : Type} {a : MacAlgorithm} {keyId name : String}
    (read : Written → Option α) (h : (texts a keyId).lookup name = none) :
    checked ((members a keyId).map fun m => (m.1, written m.2)) read name = true := by
  rw [checked, member?_members, h]
  rfl

/-- **The printed header is read as itself.** -/
theorem ofWritten?_toJson (a : MacAlgorithm) (keyId : String) :
    ofWritten? (written (toJson a keyId)) = some ⟨.mac a, some keyId⟩ := by
  have halgorithm : (givenText ((texts a keyId).lookup "alg")).required algorithm? =
      some (.mac a) := by
    change algorithm? (written (.string (Algorithm.mac a).name)) = some (.mac a)
    rw [written, algorithm?, pieceString?_stringPieces, Option.bind_some, ofName?_name]
  have hkeyId : (givenText ((texts a keyId).lookup "kid")).defaulted Written.string? =
      some (some keyId) := defaulted_givenText (some keyId)
  have hlists : listNames.all
      (checked ((members a keyId).map fun m => (m.1, written m.2)) strings?) = true := by
    rw [List.all_eq_true]
    intro name hname
    refine checked_absent strings? ?_
    rcases List.mem_pair.mp hname with rfl | rfl <;> rfl
  have htexts : textNames.all
      (checked ((members a keyId).map fun m => (m.1, written m.2)) Written.string?) = true := by
    rw [List.all_eq_true]
    exact fun name _ => checked_text a keyId name
  have hothers : ((members a keyId).map fun m => (m.1, written m.2)).filter
      (fun m => !isStandard m.1) = [] := rfl
  have hobject : toJson a keyId = .object (members a keyId) := rfl
  have hkey : checked ((members a keyId).map fun m => (m.1, written m.2)) key? "jwk" = true :=
    checked_absent key? rfl
  rw [hobject, written, ofWritten?, named?_written]
  simp only [Option.bind_eq_bind, Option.bind_some, member?_members, halgorithm, hkeyId,
    htexts, hlists, hkey, hothers, List.all_nil, Bool.and_self, if_true]

end Header

end CredentialGateway.Token
