/-
The claims that a token writes.

What a token says does not depend on who looks at it and when: the claims stand in its
second part.  Verification adds conditions and reads the same claims, so one token never
verifies as two different things, and a token that was issued says what it was issued
with.
-/
import Mathlib
import CredentialGateway.Proofs.Token.Verify

namespace CredentialGateway.Token

namespace Authority

/-- The claims that a token writes, whether or not they are true. -/
def claimsIn? (token : List UInt8) : Option Claims :=
  match parts? token with
  | none => none
  | some p =>
    match readPart claimsAndAudience? p.claims with
    | .ok (claims, _) => some claims
    | .error _ => none

theorem claimsIn?_sealed {mac : Mac} {secret : List UInt8} {algorithm : MacAlgorithm}
    {header octets : List UInt8} {claims : Claims} {audience : Bool}
    (h : claimsOf? octets = some (claims, audience)) :
    claimsIn? (sealed mac secret algorithm header octets) = some claims := by
  have hread : readPart claimsAndAudience? (Base64.urlSafe.encode octets) = .ok (claims, audience) :=
    readPart_eq_ok_iff.mpr ⟨octets, rfl, h⟩
  simp only [claimsIn?, parts?_sealed, sealedParts, hread]

/-- **A text verifies as the claims that its token writes.** -/
theorem claimsIn?_of_verify {mac : Mac} {a : Authority} {now : UInt64} {presented : String}
    {claims : Claims} (h : a.verify mac now presented = .ok claims) :
    claimsIn? (presentedToken presented) = some claims := by
  obtain ⟨algorithm, header, octets, htoken, -, hclaims, -⟩ := verifyToken_eq_ok_iff.mp h
  rw [htoken]
  exact claimsIn?_sealed hclaims

/-- The octets of an issued token. -/
theorem encodeString_issue (mac : Mac) (a : Authority) (caller : Caller) (o : Occasion) :
    Utf8.encodeString (a.issue mac caller o).1.token =
      compact mac a.secret .hs256 a.keyId (a.claimsFor caller o) := by
  have hascii : ∀ b ∈ compact mac a.secret .hs256 a.keyId (a.claimsFor caller o),
      b.toNat < 0x80 := fun b hb => (isTokenOctet_of_mem_sealed b hb).plain.1
  rw [Utf8.encodeString, issue, String.toList_ofList]
  exact encode_characters hascii

/-- **An issued token writes the claims it was issued with.** -/
theorem claimsIn?_issue (mac : Mac) (a : Authority) (caller : Caller) (o : Occasion) :
    claimsIn? (Utf8.encodeString (a.issue mac caller o).1.token) =
      some (a.claimsFor caller o) := by
  rw [encodeString_issue, compact_eq_sealed]
  exact claimsIn?_sealed (claimsOf?_octets _)

end Authority

end CredentialGateway.Token
