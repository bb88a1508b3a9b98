/-
Calls of an authority, one after another.

A call hands out a token, verifies a text or revokes.  What a call leaves behind is said
field by field: no call touches the secret or its name, only an issue moves the counter,
and the cutoff goes up to the time of a revocation and never back.  A run of calls keeps
what each of them keeps.
-/
import Mathlib
import CredentialGateway.Token.Authority

namespace CredentialGateway.Token

/-- A call of an authority. -/
inductive Call where
  /-- A caller asks for a token. -/
  | issue (caller : Caller) (o : Occasion)
  /-- A text is presented, at some reading of the clock. -/
  | verify (now : UInt64) (presented : String)
  /-- The tokens created before a time are to be revoked. -/
  | revoke (time : UInt64)

/-- What a call is answered. -/
inductive Answer where
  /-- The token that was issued. -/
  | issued (issued : Issued)
  /-- The claims of a text that was accepted, or why it was refused. -/
  | verdict (verdict : Except Rejection Claims)
  /-- The cutoff after a revocation. -/
  | cutoff (time : UInt64)

/-- The latest of some times, or zero. -/
def latest (times : List UInt64) : Nat :=
  (times.map UInt64.toNat).foldr max 0

theorem latest_of_perm {ts us : List UInt64} (h : ts.Perm us) : latest ts = latest us :=
  (h.map UInt64.toNat).foldr_eq 0

namespace Authority

/-- The answer to a call, and the authority behind it. -/
def perform (mac : Mac) (a : Authority) : Call → Answer × Authority
  | .issue caller o => (.issued (a.issue mac caller o).1, (a.issue mac caller o).2)
  | .verify now presented => (.verdict (a.verify mac now presented), a)
  | .revoke time => (.cutoff (a.revoke time).cutoff, a.revoke time)

/-- The authority behind calls, one after another. -/
def performAll (mac : Mac) (a : Authority) (calls : List Call) : Authority :=
  calls.foldl (fun a c => (a.perform mac c).2) a

/-- Whether an authority has the secret of another, under the same name. -/
structure SharesKey (a b : Authority) : Prop where
  secret_eq : b.secret = a.secret
  keyId_eq : b.keyId = a.keyId

theorem SharesKey.refl (a : Authority) : SharesKey a a :=
  ⟨rfl, rfl⟩

theorem SharesKey.trans {a b c : Authority} (hab : SharesKey a b) (hbc : SharesKey b c) :
    SharesKey a c :=
  ⟨hbc.secret_eq.trans hab.secret_eq, hbc.keyId_eq.trans hab.keyId_eq⟩

variable {mac : Mac} {a : Authority}

theorem sharesKey_perform (mac : Mac) (a : Authority) (c : Call) :
    SharesKey a (a.perform mac c).2 := by
  cases c with
  | issue caller o => exact ⟨rfl, rfl⟩
  | verify now presented => exact ⟨rfl, rfl⟩
  | revoke time => exact ⟨rfl, rfl⟩

/-- The cutoff after a revocation, as a number. -/
theorem toNat_cutoff_revoke (a : Authority) (time : UInt64) :
    (a.revoke time).cutoff.toNat = max a.cutoff.toNat time.toNat :=
  UInt64.toNat_max a.cutoff time

/-- A revocation moves the cutoff to its time, and not back. -/
theorem cutoff_revoke (a : Authority) (time : UInt64) :
    a.cutoff ≤ (a.revoke time).cutoff ∧ time ≤ (a.revoke time).cutoff := by
  simp only [UInt64.le_iff_toNat_le, toNat_cutoff_revoke]
  exact ⟨Nat.le_max_left _ _, Nat.le_max_right _ _⟩

/-- A revocation makes the cutoff the latest of the times so far, if it was before. -/
theorem latest_cons_eq_cutoff_revoke {times : List UInt64} (h : a.cutoff.toNat = latest times)
    (time : UInt64) : (a.revoke time).cutoff.toNat = latest (time :: times) := by
  rw [toNat_cutoff_revoke, h, Nat.max_comm]
  rfl

/-- **No call moves the cutoff back.** -/
theorem cutoff_le_perform (mac : Mac) (a : Authority) (c : Call) :
    a.cutoff ≤ (a.perform mac c).2.cutoff := by
  cases c with
  | issue caller o => exact UInt64.le_refl _
  | verify now presented => exact UInt64.le_refl _
  | revoke time => exact (cutoff_revoke a time).1

theorem sharesKey_performAll (mac : Mac) (a : Authority) (calls : List Call) :
    SharesKey a (a.performAll mac calls) := by
  induction calls generalizing a with
  | nil => exact .refl a
  | cons c rest ih => exact (sharesKey_perform mac a c).trans (ih _)

theorem cutoff_le_performAll (mac : Mac) (a : Authority) (calls : List Call) :
    a.cutoff ≤ (a.performAll mac calls).cutoff := by
  induction calls generalizing a with
  | nil => exact UInt64.le_refl _
  | cons c rest ih => exact UInt64.le_trans (cutoff_le_perform mac a c) (ih _)

end Authority

end CredentialGateway.Token
