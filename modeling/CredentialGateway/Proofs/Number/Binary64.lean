/-
Rounded numbers fit their format.

`Fits` is what the doc comment of `Magnitude` promises apart from the normal form: at most
53 significant bits, and an exponent within the range.  Every number is made by
`ofRatio?`, so the one thing to show is that the exponent chosen for a ratio leaves less
than `2 ^ 53` units of it.  The exponent is guessed from the binary logarithms, which
determine the ratio up to a factor of two each way; the guess is lowered when that leaves too
few bits, and raised to the least exponent there is, which leaves fewer.

Both sides of a comparison are scaled by the part of a power with a positive exponent, so
that it is one between integers.  `mul_pow_lt_mul_pow_iff` says what it means in the rationals,
where a power has any exponent.
-/
import Mathlib
import CredentialGateway.Number.Binary64

namespace CredentialGateway

/-! ### Comparisons scaled by a power -/

/-- A power with any exponent, by its parts with a positive one. -/
theorem pow_toNat {b : ℚ} (hb : b ≠ 0) (e : Int) : b ^ e.toNat = b ^ (-e).toNat * b ^ e := by
  rw [← zpow_natCast, ← zpow_natCast, ← zpow_add₀ hb]
  congr 1
  omega

theorem mul_pow_lt_mul_pow_iff {b : Nat} (hb : 0 < b) (m n : Nat) (e : Int) :
    m * Nat.pow b (-e).toNat < n * Nat.pow b e.toNat ↔ (m : ℚ) < n * (b : ℚ) ^ e := by
  have hpos : (0 : ℚ) < b := by exact_mod_cast hb
  have hscale : (0 : ℚ) < (b : ℚ) ^ (-e).toNat := pow_pos hpos _
  calc m * Nat.pow b (-e).toNat < n * Nat.pow b e.toNat
      ↔ (m : ℚ) * (b : ℚ) ^ (-e).toNat < n * (b : ℚ) ^ e.toNat := by
        simp only [Nat.pow_eq]
        exact_mod_cast Iff.rfl
    _ ↔ (m : ℚ) * (b : ℚ) ^ (-e).toNat < n * (b : ℚ) ^ e * (b : ℚ) ^ (-e).toNat := by
        rw [pow_toNat (Ne.symm hpos.ne) e, mul_comm ((b : ℚ) ^ (-e).toNat), mul_assoc]
    _ ↔ (m : ℚ) < n * (b : ℚ) ^ e := mul_lt_mul_iff_left₀ hscale

theorem mul_pow_le_mul_pow_iff {b : Nat} (hb : 0 < b) (m n : Nat) (e : Int) :
    m * Nat.pow b e.toNat ≤ n * Nat.pow b (-e).toNat ↔ m * (b : ℚ) ^ e ≤ n := by
  rw [← not_lt, ← not_lt, mul_pow_lt_mul_pow_iff hb]

/-- Rounding a quotient does not take it past an integer. -/
theorem roundDiv_le {num den bound : Nat} (h : num < bound * den) : roundDiv num den ≤ bound := by
  have hquotient : num / den < bound := Nat.div_lt_of_lt_mul (by rwa [Nat.mul_comm])
  unfold roundDiv
  dsimp only
  split_ifs <;> omega

namespace Magnitude

/-- A number of the format: what is stored of it has room. -/
structure Fits (x : Magnitude) : Prop where
  significand_lt : x.significand < 2 ^ 53
  le_exponent : minExponent ≤ x.exponent
  exponent_le : x.exponent ≤ maxExponent

theorem fits_zero : zero.Fits := ⟨by decide, by decide, by decide⟩

/-! ### Rounding a ratio -/

/-- A ratio is less than `2 ^ 53` units of the exponent chosen for it. -/
theorem lt_exponentFor {num den : Nat} (hden : den ≠ 0) :
    (num : ℚ) < (2 ^ 53 * den : Nat) * (2 : ℚ) ^ exponentFor num den := by
  have hpos : (0 : ℚ) < den := by exact_mod_cast Nat.pos_of_ne_zero hden
  have hmono : ∀ {e e' : Int}, e ≤ e' → (2 ^ 53 * den : Nat) * (2 : ℚ) ^ e ≤
      (2 ^ 53 * den : Nat) * (2 : ℚ) ^ e' := fun h =>
    mul_le_mul_of_nonneg_left (zpow_le_zpow_right₀ (by norm_num) h) (Nat.cast_nonneg _)
  unfold exponentFor
  dsimp only
  refine lt_of_lt_of_le ?_ (hmono (le_max_right _ _))
  split_ifs with hshort
  · -- Too few bits: the number is below `2 ^ 52` units of the guess.
    rw [← Nat.mul_assoc] at hshort
    have hlt := (mul_pow_lt_mul_pow_iff (by decide) _ _ _).mp hshort
    rw [zpow_sub_one₀ (by norm_num)]
    push_cast at hlt ⊢
    linarith
  · -- The logarithms alone: the numerator is below one power of two, and the denominator reaches
    -- another.
    have hnum : (num : ℚ) < 2 ^ ((num.log2 : Int) + 1) := by
      have h := Nat.lt_log2_self (n := num)
      rw [zpow_add_one₀ (by norm_num), zpow_natCast, ← pow_succ]
      exact_mod_cast h
    have hdenominator : (2 : ℚ) ^ (den.log2 : Int) ≤ den := by
      rw [zpow_natCast]
      exact_mod_cast Nat.log2_self_le hden
    calc (num : ℚ) < 2 ^ ((num.log2 : Int) + 1) := hnum
      _ = 2 ^ (53 : Int) * 2 ^ (den.log2 : Int) * 2 ^ ((num.log2 : Int) - den.log2 - 52) := by
        rw [← zpow_add₀ (by norm_num), ← zpow_add₀ (by norm_num)]
        congr 1
        omega
      _ ≤ 2 ^ (53 : Int) * den * 2 ^ ((num.log2 : Int) - den.log2 - 52) := by gcongr
      _ = _ := by norm_num

/-- **What a ratio is rounded to fits.** -/
theorem fits_of_ofRatio? {num den : Nat} {x : Magnitude} (h : ofRatio? num den = some x) :
    x.Fits := by
  unfold ofRatio? at h
  split_ifs at h with hnum
  · cases h
    exact fits_zero
  · dsimp only at h
    have hround : roundDiv (num * Nat.pow 2 (-exponentFor num den).toNat)
        (den * Nat.pow 2 (exponentFor num den).toNat) ≤ 2 ^ 53 := by
      by_cases hden : den = 0
      · rw [hden, Nat.zero_mul, roundDiv, Nat.div_zero]
        split_ifs <;> omega
      · refine roundDiv_le ?_
        rw [← Nat.mul_assoc]
        exact (mul_pow_lt_mul_pow_iff (by decide) _ _ _).mpr (lt_exponentFor hden)
    have hleast : minExponent ≤ exponentFor num den := by
      unfold exponentFor
      exact le_max_left _ _
    generalize exponentFor num den = e at hround hleast h
    generalize roundDiv _ _ = s at hround h
    rw [Option.ite_none_right_eq_some] at h
    obtain ⟨hexponent, hx⟩ := h
    cases hx
    split_ifs at hexponent ⊢ with hcarry
    · exact ⟨by norm_num, Int.le_add_one hleast, hexponent⟩
    · exact ⟨lt_of_le_of_ne hround hcarry, hleast, hexponent⟩

theorem fits_of_mul? {x y z : Magnitude} (h : x.mul? y = some z) : z.Fits :=
  fits_of_ofRatio? h

theorem fits_of_div? {x y z : Magnitude} (h : x.div? y = some z) : z.Fits :=
  fits_of_ofRatio? h

end Magnitude

end CredentialGateway
