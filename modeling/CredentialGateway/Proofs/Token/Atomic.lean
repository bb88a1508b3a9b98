/-
A call of an authority as one atomic access and what surrounds it.

Of all that a call does, three things touch what the authority remembers: an issue adds
one to the counter, a revocation raises the cutoff, and a verification loads the cutoff.
Each is one atomic access that reads and writes at once.  Everything before it and after
it is the call's own and needs of the authority only its key, which never changes.  So a
call may be begun under one authority and go on under a later one, and what it does then
is what it would do alone under the later one.

A verification loads the cutoff after most of its checks, and a token that these refuse
is refused without a look at the cutoff.
-/
import Mathlib
import CredentialGateway.Proofs.Token.Calls
import CredentialGateway.Proofs.Token.Contents

namespace CredentialGateway.Token

/-- An atomic access to what an authority remembers. -/
inductive Access where
  /-- Add one to the counter. -/
  | addVersion
  /-- Raise the cutoff to a time, unless it is later already. -/
  | raiseCutoff (time : UInt64)
  /-- Load the cutoff. -/
  | loadCutoff

/-- What an access reads, and the authority it leaves. -/
def Access.apply (a : Authority) : Access → UInt64 × Authority
  | .addVersion => (a.version, { a with version := a.version + 1 })
  | .raiseCutoff time => (a.cutoff, a.revoke time)
  | .loadCutoff => (a.cutoff, a)

/-- What is left of a call. -/
inductive Task where
  /-- It was answered. -/
  | answered (answer : Answer)
  /-- It makes an access, and what it reads decides its answer. -/
  | access (x : Access) (next : UInt64 → Answer)

/-- The answer to a task that goes on, and the authority it leaves. -/
def Task.resume (a : Authority) : Task → Answer × Authority
  | .answered answer => (answer, a)
  | .access x next => (next (x.apply a).1, (x.apply a).2)

namespace Authority

/-- The checks of claims that come before the cutoff is loaded. -/
def checkTerms (now : UInt64) (c : Claims) (audience : Bool) : Except Rejection Claims :=
  if c.expires < now then .error .expired
  else if now < c.notBefore then .error .notYetValid
  else if audience then .error (.malformed .audience)
  else if c.scope ≠ Token.scope then .error (.scope c.scope)
  else .ok c

/-- The checks of claims that come after the cutoff was loaded. -/
def checkCutoff (keyId : String) (cutoff : UInt64) (c : Claims) : Except Rejection Claims :=
  if c.createdAt < cutoff then .error (.revoked c.createdAt cutoff)
  else if c.keyId ≠ keyId then .error (.claimsKey c.keyId)
  else .ok c

/-- Verification of a token up to where the cutoff is loaded. -/
def readClaims (mac : Mac) (a : Authority) (now : UInt64) (token : List UInt8) :
    Except Rejection Claims := do
  let some p := parts? token | throw (.malformed .parts)
  let algorithm ← a.checkHeader (← readPart Header.ofWritten? p.header)
  a.checkSignature mac algorithm p
  let (claims, audience) ← readPart claimsAndAudience? p.claims
  checkTerms now claims audience

/-- What a call does before its access, if it makes one. -/
def begin (mac : Mac) (a : Authority) : Call → Task
  | .issue caller o =>
    .access .addVersion fun before => .issued ({ a with version := before }.issue mac caller o).1
  | .verify now presented =>
    match a.readClaims mac now (presentedToken presented) with
    | .error cause => .answered (.verdict (.error cause))
    | .ok c => .access .loadCutoff fun cutoff => .verdict (checkCutoff a.keyId cutoff c)
  | .revoke time => .access (.raiseCutoff time) fun before => .cutoff (max before time)

/-! ### A call alone -/

theorem checkClaims_eq (a : Authority) (now : UInt64) (c : Claims) (audience : Bool) :
    a.checkClaims now c audience =
      (checkTerms now c audience >>= checkCutoff a.keyId a.cutoff) := by
  rw [checkClaims, checkTerms]
  by_cases hexpired : c.expires < now
  · rw [if_pos hexpired, if_pos hexpired]; rfl
  rw [if_neg hexpired, if_neg hexpired]
  by_cases hearly : now < c.notBefore
  · rw [if_pos hearly, if_pos hearly]; rfl
  rw [if_neg hearly, if_neg hearly]
  by_cases haudience : audience = true
  · rw [if_pos haudience, if_pos haudience]; rfl
  rw [if_neg haudience, if_neg haudience]
  by_cases hscope : c.scope ≠ Token.scope
  · rw [if_pos hscope, if_pos hscope]; rfl
  rw [if_neg hscope, if_neg hscope]
  rfl

theorem verifyToken_eq (mac : Mac) (a : Authority) (now : UInt64) (token : List UInt8) :
    a.verifyToken mac now token =
      (a.readClaims mac now token >>= checkCutoff a.keyId a.cutoff) := by
  rw [verifyToken, readClaims]
  cases parts? token with
  | none => rfl
  | some p => simp only [checkClaims_eq, bind_assoc]

theorem readClaims_eq_of_sharesKey {mac : Mac} {a b : Authority} (hkey : SharesKey a b)
    (now : UInt64) (token : List UInt8) :
    a.readClaims mac now token = b.readClaims mac now token := by
  simp only [readClaims, checkHeader, checkSignature, hkey.secret_eq, hkey.keyId_eq]

/-- **A call that is begun under some authority and resumed under another with the same key does
what it would do alone under the latter.** -/
theorem resume_begin {a b : Authority} (hkey : SharesKey a b) (mac : Mac) (c : Call) :
    (a.begin mac c).resume b = b.perform mac c := by
  cases c with
  | issue caller o =>
      have hissue : ({ a with version := b.version }.issue mac caller o).1 =
          (b.issue mac caller o).1 := by
        simp only [issue, claimsFor, hkey.secret_eq, hkey.keyId_eq]
      simp only [begin, Task.resume, Access.apply, perform, hissue]
      rfl
  | verify now presented =>
      have hverify : b.verify mac now presented =
          (a.readClaims mac now (presentedToken presented) >>= checkCutoff a.keyId b.cutoff) := by
        rw [verify, verifyToken_eq, readClaims_eq_of_sharesKey hkey, hkey.keyId_eq]
      simp only [begin, perform, hverify]
      cases a.readClaims mac now (presentedToken presented) with
      | error cause => rfl
      | ok claims => rfl
  | revoke time => rfl

/-! ### Why a token counts as revoked -/

theorem claimsIn?_of_readClaims {mac : Mac} {a : Authority} {now : UInt64} {token : List UInt8}
    {c : Claims} (h : a.readClaims mac now token = .ok c) : claimsIn? token = some c := by
  rw [readClaims] at h
  rw [claimsIn?]
  cases hparts : parts? token with
  | none =>
      rw [hparts] at h
      cases h
  | some p =>
      rw [hparts] at h
      simp only [bind_eq_ok_iff, Prod.exists] at h
      obtain ⟨_, -, _, -, _, -, d, audience, hread, hterms⟩ := h
      have hcd : d = c := by
        rw [checkTerms] at hterms
        split_ifs at hterms
        exact Except.ok.inj hterms
      simp only [hread, hcd]

/-- A part that is not Base64 makes the token malformed. -/
theorem malformed_of_decodePart {part : List UInt8} {cause : Rejection}
    (h : decodePart part = .error cause) : ∃ m, cause = .malformed m := by
  rw [decodePart] at h
  cases hdecoded : Base64.urlSafe.decode part with
  | error f =>
      rw [hdecoded] at h
      exact ⟨_, (Except.error.inj h).symm⟩
  | ok octets =>
      rw [hdecoded] at h
      cases h

/-- A part that cannot be read makes the token malformed. -/
theorem malformed_of_readPart {α : Type} {read : Json.Written → Option α} {part : List UInt8}
    {cause : Rejection} (h : readPart read part = .error cause) : ∃ m, cause = .malformed m := by
  rcases bind_eq_error_iff.mp h with hdecoded | ⟨octets, -, hread⟩
  · exact malformed_of_decodePart hdecoded
  · split at hread
    · cases hread
    · exact ⟨_, (Except.error.inj hread).symm⟩

/-- A token that is refused before the cutoff is loaded is not refused as revoked. -/
theorem readClaims_ne_revoked {mac : Mac} {a : Authority} {now time cutoff : UInt64}
    {token : List UInt8} : a.readClaims mac now token ≠ .error (.revoked time cutoff) := by
  intro h
  rw [readClaims] at h
  cases hparts : parts? token with
  | none =>
      rw [hparts] at h
      cases h
  | some p =>
      rw [hparts] at h
      simp only [bind_eq_error_iff] at h
      rcases h with hheader | ⟨header, -, hcode | ⟨algorithm, -, hseal | ⟨_, -, hclaims |
        ⟨claims, -, hterms⟩⟩⟩⟩
      · obtain ⟨m, hm⟩ := malformed_of_readPart hheader
        cases hm
      · rw [checkHeader] at hcode
        split at hcode
        · cases hcode
        · split_ifs at hcode
          cases hcode
      · rcases bind_eq_error_iff.mp hseal with hdecoded | ⟨signature, -, hmac⟩
        · obtain ⟨m, hm⟩ := malformed_of_decodePart hdecoded
          cases hm
        · split_ifs at hmac <;> cases hmac
      · obtain ⟨m, hm⟩ := malformed_of_readPart hclaims
        cases hm
      · rw [checkTerms] at hterms
        split_ifs at hterms <;> cases hterms

/-- **A token is refused as revoked only if it writes a time of creation before the cutoff.** -/
theorem createdAt_lt_of_revoked {mac : Mac} {a : Authority} {now time cutoff : UInt64}
    {presented : String} (h : a.verify mac now presented = .error (.revoked time cutoff)) :
    ∃ c, claimsIn? (presentedToken presented) = some c ∧ c.createdAt < a.cutoff := by
  rw [verify, verifyToken_eq] at h
  rcases bind_eq_error_iff.mp h with hread | ⟨c, hread, hcutoff⟩
  · exact absurd hread readClaims_ne_revoked
  · refine ⟨c, claimsIn?_of_readClaims hread, ?_⟩
    rw [checkCutoff] at hcutoff
    split_ifs at hcutoff with hrevoked
    · exact hrevoked
    · cases hcutoff

end Authority

end CredentialGateway.Token
