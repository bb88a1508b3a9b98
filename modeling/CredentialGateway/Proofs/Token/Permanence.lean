/-
A token that was refused stays refused.

What a text presents does not change, and neither does the key it is checked under, so
whether its seal and its claims can be read is settled for good.  What is left to change
are the clock and the cutoff.  Both only go up, and all checks but one can only get worse
by that: a token expires and does not come back, and one behind the cutoff stays behind
it.  The one exception is the beginning of its time.

The checks run in an order in which an early one hides the later ones, so the argument
goes backwards: from a text that is accepted at the later time to what was said of it at
the earlier one.
-/
import Mathlib
import CredentialGateway.Proofs.Token.Calls
import CredentialGateway.Proofs.Token.Verify

namespace CredentialGateway.Token

namespace Authority

variable {mac : Mac} {a later : Authority} {t₁ t₂ : UInt64} {c : Claims}

/-- Claims that are live later were live before, unless their time had not begun. -/
theorem checkClaims_of_live_later (hclock : t₁ ≤ t₂) (hcutoff : a.cutoff ≤ later.cutoff)
    (hkey : SharesKey a later) (hlive : later.Live t₂ c) :
    a.checkClaims t₁ c false = if t₁ < c.notBefore then .error .notYetValid else .ok c := by
  have hunexpired : ¬ c.expires < t₁ :=
    UInt64.not_lt.mpr (UInt64.le_trans hclock hlive.unexpired)
  have hunrevoked : ¬ c.createdAt < a.cutoff :=
    UInt64.not_lt.mpr (UInt64.le_trans hcutoff hlive.unrevoked)
  have hunderKey : c.keyId = a.keyId := hlive.underKey.trans hkey.keyId_eq
  rw [checkClaims, if_neg hunexpired]
  by_cases hearly : t₁ < c.notBefore
  · rw [if_pos hearly, if_pos hearly]
  · rw [if_neg hearly, if_neg hearly, if_neg Bool.false_ne_true,
      if_neg (not_not.mpr hlive.inScope), if_neg hunrevoked, if_neg (not_not.mpr hunderKey)]

/-- **What was said before of a text that is accepted later.** -/
theorem verify_of_accepted_later {presented : String} (hclock : t₁ ≤ t₂)
    (hcutoff : a.cutoff ≤ later.cutoff) (hkey : SharesKey a later)
    (haccepted : later.verify mac t₂ presented = .ok c) :
    a.verify mac t₁ presented = if t₁ < c.notBefore then .error .notYetValid else .ok c := by
  obtain ⟨algorithm, header, claims, htoken, hheader, hclaims, hlive⟩ :=
    verifyToken_eq_ok_iff.mp haccepted
  rw [hkey.secret_eq] at htoken
  rw [hkey.keyId_eq] at hheader
  rw [verify, htoken, verifyToken_sealed hheader hclaims,
    checkClaims_of_live_later hclock hcutoff hkey hlive]

/-- **A refusal is for good.**  When a text was refused, then whatever is issued, verified and
revoked after that, it is refused at every later reading of the clock, unless it was refused
because its time had not begun; and a text that is accepted later had claims whose time had not
begun then, is within their time now, and was created no earlier than the cutoff now is. -/
theorem refusal_is_permanent (mac : Mac) (a : Authority) (between : List Call)
    (presented : String) (t₁ t₂ : UInt64) (cause : Rejection) (hclock : t₁ ≤ t₂)
    (hrefused : a.verify mac t₁ presented = .error cause) :
    let later := a.performAll mac (.verify t₁ presented :: between)
    (cause ≠ .notYetValid → ∃ cause', later.verify mac t₂ presented = .error cause') ∧
    (∀ c, later.verify mac t₂ presented = .ok c → cause = .notYetValid ∧ t₁ < c.notBefore ∧
      c.notBefore ≤ t₂ ∧ t₂ ≤ c.expires ∧ later.cutoff ≤ c.createdAt) := by
  intro later
  have haccepted : ∀ c, later.verify mac t₂ presented = .ok c →
      cause = .notYetValid ∧ t₁ < c.notBefore := by
    intro c hc
    have hbefore := verify_of_accepted_later hclock (cutoff_le_performAll mac a _)
      (sharesKey_performAll mac a _) hc
    rw [hrefused] at hbefore
    split at hbefore
    · exact ⟨Except.error.inj hbefore, ‹_›⟩
    · cases hbefore
  constructor
  · intro hcause
    cases hlater : later.verify mac t₂ presented with
    | error cause' => exact ⟨cause', rfl⟩
    | ok c => exact absurd (haccepted c hlater).1 hcause
  · intro c hc
    obtain ⟨-, -, -, -, -, -, hlive⟩ := verify_eq_ok_iff.mp hc
    obtain ⟨hcause, hearly⟩ := haccepted c hc
    exact ⟨hcause, hearly, hlive.begun, hlive.unexpired, hlive.unrevoked⟩

/-- A token that is presented before its time, within it, and when it is over, with revocations in
between that it survives. -/
theorem early_token_has_its_time_once :
    let a : Authority := ⟨[0x73, 0x33], "main", 4, 50⟩
    let c : Claims := ⟨"7-ada", 60, 60, 90, "ada", none, some "ops", 4, 60, "main", "n1", scope⟩
    let text := String.ofList (characters (compact hmac a.secret .hs384 a.keyId c))
    let within := a.performAll hmac [.verify 55 text, .revoke 60]
    let after := a.performAll hmac [.verify 91 text, .issue ⟨none, none, none⟩ ⟨92, 8, "n2"⟩]
    a.verify hmac 55 text = .error .notYetValid ∧ within.verify hmac 75 text = .ok c ∧
      (55 < c.notBefore ∧ c.notBefore ≤ 75 ∧ 75 ≤ c.expires ∧ within.cutoff ≤ c.createdAt) ∧
      a.verify hmac 91 text = .error .expired ∧
      ∃ cause, after.verify hmac 95 text = .error cause := by
  intro a c text within after
  have hpresents : Presents text (compact hmac a.secret .hs384 a.keyId c) := presents_characters _
  have hwithin : within.verify hmac 75 text = .ok c :=
    verify_of_presents_compact ⟨by decide, by decide, rfl, by decide, rfl⟩ hpresents
  have hearly : a.verify hmac 55 text = .error .notYetValid := by
    rw [verify_of_accepted_later (by decide) (cutoff_le_performAll hmac a _)
      (sharesKey_performAll hmac a _) hwithin]
    rfl
  have hexpired : a.verify hmac 91 text = .error .expired := by
    have htoken := (presentedToken_eq_iff (sealed_ne_nil _ _ _ _ _)
      isTokenOctet_of_mem_sealed).mpr hpresents
    rw [verify, htoken, verifyToken_sealed (headerOf?_octets _ _) (claimsOf?_octets c)]
    rfl
  have hlater := (refusal_is_permanent hmac a [.revoke 60] text 55 75 _ (by decide) hearly).2 c
    hwithin
  exact ⟨hearly, hwithin, hlater.2, hexpired,
    (refusal_is_permanent hmac a [.issue ⟨none, none, none⟩ ⟨92, 8, "n2"⟩] text 91 95 _ (by decide)
      hexpired).1 (by decide)⟩

end Authority

end CredentialGateway.Token
