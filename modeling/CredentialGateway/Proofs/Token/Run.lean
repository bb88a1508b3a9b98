/-
A token that was issued verifies for as long as it is valid, whatever else happens.

Between two looks at the authority others may be given tokens and tokens may be
revoked.  No such event touches the secret or its name, and the cutoff never passes
the latest time that was revoked.  So a token that was created no earlier than all of
those times stays on the right side of the cutoff, and its claims stay live.
-/
import Mathlib
import CredentialGateway.Proofs.Token.Verify

namespace CredentialGateway.Token

/-- What can happen to an authority. -/
inductive Event where
  /-- A caller is given a token. -/
  | issue (caller : Caller) (o : Occasion)
  /-- The tokens created before a time are revoked. -/
  | revoke (time : UInt64)

/-- Whether an event revokes nothing created after a time. -/
def Event.RevokesUpTo (now : UInt64) : Event → Prop
  | .issue _ _ => True
  | .revoke time => time ≤ now

namespace Authority

/-- The authority after an event. -/
def step (mac : Mac) (a : Authority) : Event → Authority
  | .issue caller o => (a.issue mac caller o).2
  | .revoke time => a.revoke time

/-- The authority after events. -/
def run (mac : Mac) (a : Authority) (events : List Event) : Authority :=
  events.foldl (step mac) a

/-- What the events up to a time leave as it is: the secret and its name, and the cutoff on the
near side of that time. -/
structure Keeps (secret : List UInt8) (keyId : String) (now : UInt64) (a : Authority) : Prop where
  secret_eq : a.secret = secret
  keyId_eq : a.keyId = keyId
  cutoff_le : a.cutoff ≤ now

variable {secret : List UInt8} {keyId : String} {now : UInt64}

theorem keeps_ofStore (s : Store) (now : UInt64) :
    Keeps (Utf8.encodeString s.secret) s.keyId now (ofStore s) :=
  ⟨rfl, rfl, UInt64.zero_le⟩

theorem Keeps.step (mac : Mac) {a : Authority} (h : Keeps secret keyId now a) {e : Event}
    (he : e.RevokesUpTo now) : Keeps secret keyId now (step mac a e) := by
  cases e with
  | issue caller o => exact ⟨h.secret_eq, h.keyId_eq, h.cutoff_le⟩
  | revoke time =>
      refine ⟨h.secret_eq, h.keyId_eq, ?_⟩
      change (if a.cutoff ≤ time then time else a.cutoff) ≤ now
      split
      · exact he
      · exact h.cutoff_le

theorem Keeps.run (mac : Mac) :
    ∀ (events : List Event) {a : Authority}, Keeps secret keyId now a →
      (∀ e ∈ events, e.RevokesUpTo now) → Keeps secret keyId now (run mac a events) := by
  intro events
  induction events with
  | nil => intro a h _; exact h
  | cons e rest ih =>
      intro a h hall
      exact ih (h.step mac (hall e List.mem_cons_self))
        (fun d hd => hall d (List.mem_cons_of_mem e hd))

/-! ### The issued token -/

/-- The claims of a token are live for thirty days under any authority that keeps its key and
has revoked no later time. -/
theorem Keeps.live_claimsFor {a later : Authority} {caller : Caller} {o : Occasion} {t : UInt64}
    (hkeeps : Keeps secret a.keyId o.now later) (hfits : o.now.toNat + 2592000 < 2 ^ 64)
    (hlo : o.now ≤ t) (hhi : t.toNat ≤ o.now.toNat + 2592000) :
    later.Live t (a.claimsFor caller o) := by
  have hvalidity : validity.toNat = 2592000 := by decide
  refine ⟨hlo, ?_, rfl, hkeeps.cutoff_le, hkeeps.keyId_eq.symm⟩
  rw [UInt64.le_iff_toNat_le]
  change t.toNat ≤ (o.now + validity).toNat
  rw [UInt64.toNat_add, hvalidity, Nat.mod_eq_of_lt hfits]
  exact hhi

/-- A token that is issued verifies under such an authority. -/
theorem Keeps.verify_issue {mac : Mac} {a later : Authority} {caller : Caller} {o : Occasion}
    {t : UInt64} (hkeeps : Keeps a.secret a.keyId o.now later)
    (hfits : o.now.toNat + 2592000 < 2 ^ 64) (hlo : o.now ≤ t)
    (hhi : t.toNat ≤ o.now.toNat + 2592000) :
    later.verify mac t (a.issue mac caller o).1.token = .ok (a.claimsFor caller o) := by
  have hpresents : Presents (a.issue mac caller o).1.token
      (compact mac later.secret .hs256 later.keyId (a.claimsFor caller o)) := by
    rw [hkeeps.secret_eq, hkeeps.keyId_eq]
    exact presents_characters _
  exact verify_of_presents_compact (hkeeps.live_claimsFor hfits hlo hhi) hpresents

/-- What a claim that may be missing says of a part of the caller's identity: the part if it is
there and not empty. -/
structure Carries (claim part : Option String) : Prop where
  none_iff : claim = none ↔ part = none ∨ part = some ""
  some_iff : ∀ v, claim = some v ↔ part = some v ∧ v ≠ ""

theorem carries_nonEmpty (part : Option String) : Carries (nonEmpty part) part := by
  cases part with
  | none => exact ⟨by simp [nonEmpty], by simp [nonEmpty]⟩
  | some s =>
      by_cases hs : s = ""
      · have hdropped : nonEmpty (some s) = none := by simp [nonEmpty, hs]
        rw [hdropped]
        exact ⟨by simp [hs], fun v => ⟨fun h => absurd h (Option.some_ne_none v).symm,
          fun h => absurd (hs.symm.trans (Option.some.inj h.1)) h.2.symm⟩⟩
      · have hkept : nonEmpty (some s) = some s := by simp [nonEmpty, hs]
        rw [hkept]
        exact ⟨by simp [hs], fun v => ⟨fun h => ⟨h, by rw [← Option.some.inj h]; exact hs⟩,
          fun h => h.1⟩⟩

/-- **A token that was issued verifies as the claims it was issued with**, for thirty days and
whatever was issued and revoked before and after, as long as no time behind its own creation was
revoked. -/
theorem issued_token_verifies (mac : Mac) (s : Store) (before after : List Event)
    (caller : Caller) (o : Occasion) (t : UInt64) (hfits : o.now.toNat + 2592000 < 2 ^ 64)
    (hlo : o.now ≤ t) (hhi : t.toNat ≤ o.now.toNat + 2592000)
    (hbefore : ∀ e ∈ before, e.RevokesUpTo o.now) (hafter : ∀ e ∈ after, e.RevokesUpTo o.now) :
    let (issued, next) := (run mac (ofStore s) before).issue mac caller o
    (run mac next after).verify mac t issued.token = .ok issued.claims ∧
      Carries issued.claims.assertedId caller.assertedId ∧
      Carries issued.claims.organization caller.organization := by
  have hstart := Keeps.run mac before (keeps_ofStore s o.now) hbefore
  generalize run mac (ofStore s) before = a at hstart
  have hnext : Keeps a.secret a.keyId o.now (a.issue mac caller o).2 :=
    ⟨rfl, rfl, hstart.cutoff_le⟩
  have hlater := Keeps.run mac after hnext hafter
  exact ⟨hlater.verify_issue hfits hlo hhi, carries_nonEmpty caller.assertedId,
    carries_nonEmpty caller.organization⟩

/-- A token in the last second of its thirty days, with revocations up to its own creation. -/
theorem issued_token_verifies_in_last_second :
    let s : Store := ⟨[], "s3cret", List.nodup_nil, List.not_mem_nil, by decide⟩
    let before := [Event.revoke 40, Event.issue ⟨none, none, none⟩ ⟨45, 1, "n0"⟩]
    let after := [Event.revoke 50, Event.issue ⟨none, some "eve", none⟩ ⟨60, 9, "n2"⟩]
    let caller : Caller := ⟨some "ada", some "", some "ops"⟩
    let (issued, next) := (run hmac (ofStore s) before).issue hmac caller ⟨50, 7, "n1"⟩
    (run hmac next after).verify hmac 2592050 issued.token = .ok issued.claims ∧
      Carries issued.claims.assertedId caller.assertedId ∧
      Carries issued.claims.organization caller.organization := by
  intro s before after caller
  refine issued_token_verifies hmac s before after caller ⟨50, 7, "n1"⟩ 2592050 (by decide)
    (by decide) (by decide) ?_ ?_
  · intro e he
    rcases List.mem_pair.mp he with rfl | rfl
    · exact (by decide : (40 : UInt64) ≤ 50)
    · trivial
  · intro e he
    rcases List.mem_pair.mp he with rfl | rfl
    · exact UInt64.le_refl 50
    · trivial

end Authority

end CredentialGateway.Token
