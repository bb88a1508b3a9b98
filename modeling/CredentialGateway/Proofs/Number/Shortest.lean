/-
The shortest decimal is found.

`finer` gives up after eighteen grids, and then has no digits.  That does not happen to a
positive number that fits its format.  The first grid is a power of ten that the number
reaches (`pow_decimalExponent_le`), so the eighteenth has steps of less than half a unit in
the last place, since `2 ^ 54 < 10 ^ 17`.  The midpoint above is as far away as that, so the
point of the grid next above the number lies below it and reads back.  And no grid answers
with zero, for the midpoint below is positive.
-/
import Mathlib
import CredentialGateway.Number.Shortest
import CredentialGateway.Proofs.Number.Binary64

namespace CredentialGateway.Magnitude

variable {x : Magnitude}

/-- The number as a rational. -/
def value (x : Magnitude) : ℚ :=
  x.significand * 2 ^ x.exponent

/-! ### The greatest power of ten -/

theorem toRatio_value (x : Magnitude) : (x.toRatio.1 : ℚ) = x.toRatio.2 * x.value := by
  unfold toRatio value
  simp only [Nat.pow_eq]
  push_cast
  rw [pow_toNat (by norm_num) x.exponent]
  ring

theorem atLeastPower_iff (x : Magnitude) (t : Int) :
    x.atLeastPower t = true ↔ (10 : ℚ) ^ t ≤ x.value := by
  have hden : (0 : ℚ) < x.toRatio.2 := by
    unfold toRatio
    exact_mod_cast Nat.pow_pos (by decide)
  have hscaled := mul_pow_le_mul_pow_iff (b := 10) (by decide) x.toRatio.2 x.toRatio.1 t
  rw [atLeastPower, decide_eq_true_eq, hscaled, toRatio_value]
  exact mul_le_mul_iff_right₀ hden

/-- Powers of ten and of two are compared by their exponents, as far as a fraction that is near
the logarithm allows. -/
theorem pow_ten_le_pow_two {p q : Nat} {t l : Int} (hq : q ≠ 0) (hexponents : q * t ≤ p * l)
    (hbases : ((10 : ℚ) ^ p) ^ l ≤ (2 ^ q) ^ l) : (10 : ℚ) ^ t ≤ 2 ^ l := by
  refine le_of_pow_le_pow_left₀ hq (by positivity) ?_
  calc ((10 : ℚ) ^ t) ^ q = 10 ^ ((q : Int) * t) := by
        rw [← zpow_natCast, ← zpow_mul, mul_comm]
    _ ≤ 10 ^ ((p : Int) * l) := zpow_le_zpow_right₀ (by norm_num) hexponents
    _ = ((10 : ℚ) ^ p) ^ l := by rw [zpow_mul, zpow_natCast]
    _ ≤ (2 ^ q) ^ l := hbases
    _ = (2 ^ l) ^ q := by rw [← zpow_natCast, ← zpow_natCast, zpow_comm]

/-- The estimate from the binary logarithm, less one, is a power of ten that the power of two
reaches.  The fraction in the estimate is a little above the decimal logarithm of two, which
lies between 59/196 and 28/93. -/
theorem pow_estimate_le {l : Int} (hlo : -1074 ≤ l) (hhi : l ≤ 1023) :
    (10 : ℚ) ^ ((l * 30103).fdiv 100000 - 1) ≤ 2 ^ l := by
  have hfloor : 100000 * (l * 30103).fdiv 100000 ≤ l * 30103 := by
    rw [Int.fdiv_eq_ediv_of_nonneg _ (by decide)]
    omega
  rcases le_or_gt 0 l with hl | hl
  · refine pow_ten_le_pow_two (p := 59) (q := 196) (by decide) (by push_cast; omega) ?_
    exact zpow_le_zpow_left₀ hl (by positivity) (by norm_num)
  · refine pow_ten_le_pow_two (p := 28) (q := 93) (by decide) (by push_cast; omega) ?_
    obtain ⟨k, rfl⟩ : ∃ k : Nat, l = -k := ⟨l.natAbs, by omega⟩
    rw [zpow_neg, zpow_neg, zpow_natCast, zpow_natCast]
    exact inv_anti₀ (by positivity) (pow_le_pow_left₀ (by positivity) (by norm_num) k)

/-- A power of two that a number reaches, by its significant bits. -/
theorem pow_log2_le_value (hpos : 0 < x.significand) :
    (2 : ℚ) ^ ((x.significand.log2 : Int) + x.exponent) ≤ x.value := by
  rw [zpow_add₀ (by norm_num), value, zpow_natCast]
  have hlog : ((2 ^ x.significand.log2 : Nat) : ℚ) ≤ x.significand := by
    exact_mod_cast Nat.log2_self_le (Nat.ne_of_gt hpos)
  push_cast at hlog
  gcongr

/-- **The first grid is a power of ten that the number reaches.** -/
theorem pow_decimalExponent_le (hx : x.Fits) (hpos : 0 < x.significand) :
    (10 : ℚ) ^ x.decimalExponent ≤ x.value := by
  unfold decimalExponent
  dsimp only
  split_ifs with habove hat
  · exact (atLeastPower_iff x _).mp habove
  · exact (atLeastPower_iff x _).mp hat
  · have hlog : x.significand.log2 < 53 :=
      (Nat.log2_lt (Nat.ne_of_gt hpos)).mpr hx.significand_lt
    have hlo := hx.le_exponent
    have hhi := hx.exponent_le
    rw [minExponent] at hlo
    rw [maxExponent] at hhi
    exact (pow_estimate_le (by omega) (by omega)).trans (pow_log2_le_value hpos)

/-! ### A grid that is fine enough -/

theorem quartersBelow_le (x : Magnitude) : x.quartersBelow ≤ 2 := by
  unfold quartersBelow
  split_ifs <;> omega

/-- The midpoint below a positive number is positive, so zero does not read back. -/
theorem readsBack_pos (hpos : 0 < x.significand) {c num den : Nat} (hden : 0 < den)
    (h : x.readsBack c num den = true) : 0 < c := by
  have hquarters := x.quartersBelow_le
  have hlow : 0 < (4 * x.significand - x.quartersBelow) * den :=
    Nat.mul_pos (by omega) hden
  rw [Nat.pos_iff_ne_zero]
  rintro rfl
  unfold readsBack at h
  dsimp only at h
  rw [Nat.zero_mul] at h
  split_ifs at h with heven
  · rw [Bool.and_eq_true, decide_eq_true_eq] at h
    omega
  · rw [Bool.and_eq_true, decide_eq_true_eq] at h
    omega

/-- A step of less than half a unit from below the number or from the number itself ends below
the midpoint above. -/
theorem readsBack_next {num den : Nat} (hnum : 0 < num) (hstep : num < 2 * den) :
    x.readsBack (4 * x.significand * den / num + 1) num den = true := by
  have hdiv := Nat.div_add_mod (4 * x.significand * den) num
  have hmod := Nat.mod_lt (4 * x.significand * den) hnum
  have hnext : (4 * x.significand * den / num + 1) * num
      = num * (4 * x.significand * den / num) + num := by ring
  have habove : 4 * x.significand * den < (4 * x.significand * den / num + 1) * num := by omega
  have hhigh : (4 * x.significand * den / num + 1) * num < (4 * x.significand + 2) * den := by
    rw [hnext, Nat.add_mul (4 * x.significand) 2 den]
    omega
  have hlow : (4 * x.significand - x.quartersBelow) * den ≤ 4 * x.significand * den :=
    Nat.mul_le_mul_right den (Nat.sub_le _ _)
  unfold readsBack
  dsimp only
  split_ifs
  · rw [Bool.and_eq_true, decide_eq_true_eq, decide_eq_true_eq]
    exact ⟨hlow.trans habove.le, hhigh.le⟩
  · rw [Bool.and_eq_true, decide_eq_true_eq, decide_eq_true_eq]
    exact ⟨hlow.trans_lt habove, hhigh⟩

theorem onGrid?_pos (hpos : 0 < x.significand) {g : Int} {c : Nat} (h : x.onGrid? g = some c) :
    0 < c := by
  have hden : 0 < Nat.pow 10 (-g).toNat * Nat.pow 2 (x.exponent - 2).toNat :=
    Nat.mul_pos (Nat.pow_pos (by decide)) (Nat.pow_pos (by decide))
  unfold onGrid? at h
  dsimp only at h
  split at h
  · rename_i hbelow habove
    split_ifs at h <;> cases h
    · exact readsBack_pos hpos hden hbelow
    · exact readsBack_pos hpos hden habove
    · exact readsBack_pos hpos hden hbelow
    · exact readsBack_pos hpos hden habove
  · cases h
    exact readsBack_pos hpos hden ‹_›
  · cases h
    exact readsBack_pos hpos hden ‹_›
  · cases h

theorem isSome_onGrid? {g : Int} (h : (10 : ℚ) ^ g < 2 ^ (x.exponent - 1)) :
    (x.onGrid? g).isSome = true := by
  have hnum : 0 < Nat.pow 10 g.toNat * Nat.pow 2 (2 - x.exponent).toNat :=
    Nat.mul_pos (Nat.pow_pos (by decide)) (Nat.pow_pos (by decide))
  have hstep : Nat.pow 10 g.toNat * Nat.pow 2 (2 - x.exponent).toNat <
      2 * (Nat.pow 10 (-g).toNat * Nat.pow 2 (x.exponent - 2).toNat) := by
    have hten := pow_toNat (b := 10) (by norm_num) g
    have htwo := pow_toNat (b := 2) (by norm_num) (2 - x.exponent)
    rw [show -(2 - x.exponent) = x.exponent - 2 by ring] at htwo
    have hproduct : (10 : ℚ) ^ g * 2 ^ (2 - x.exponent) < 2 := by
      calc (10 : ℚ) ^ g * 2 ^ (2 - x.exponent)
          < 2 ^ (x.exponent - 1) * 2 ^ (2 - x.exponent) := by gcongr
        _ = 2 := by
          rw [← zpow_add₀ (by norm_num)]
          norm_num
    have hscale : (0 : ℚ) < 10 ^ (-g).toNat * 2 ^ (x.exponent - 2).toNat := by positivity
    have hstep := mul_lt_mul_of_pos_left hproduct hscale
    simp only [Nat.pow_eq]
    qify
    rw [hten, htwo]
    linarith
  unfold onGrid?
  dsimp only
  rw [readsBack_next hnum hstep]
  split
  · split_ifs <;> rfl
  · rename_i heq
    cases heq
  · rfl
  · rename_i heq
    cases heq

theorem finer_digits_pos (hpos : 0 < x.significand) :
    ∀ {tries : Nat} {g : Int}, (∃ n : Nat, n < tries ∧ (x.onGrid? (g - n)).isSome = true) →
      0 < (x.finer tries g).digits := by
  intro tries
  induction tries with
  | zero =>
      rintro g ⟨n, hn, -⟩
      exact absurd hn (Nat.not_lt_zero n)
  | succ tries ih =>
      rintro g ⟨n, hn, hsome⟩
      rw [finer]
      cases hgrid : x.onGrid? g with
      | some c => exact onGrid?_pos hpos hgrid
      | none =>
          cases n with
          | zero => simp [hgrid] at hsome
          | succ n =>
              refine ih ⟨n, Nat.lt_of_succ_lt_succ hn, ?_⟩
              rwa [show g - 1 - (n : Int) = g - ((n + 1 : Nat) : Int) by push_cast; ring]

/-- **The shortest decimal of a positive number has digits.** -/
theorem shortest_digits_pos (hx : x.Fits) (hpos : 0 < x.significand) : 0 < x.shortest.digits := by
  refine finer_digits_pos hpos ⟨17, by decide, isSome_onGrid? ?_⟩
  have hreach := pow_decimalExponent_le hx hpos
  have hlt : x.value < 2 ^ 53 * 2 ^ x.exponent := by
    unfold value
    have h : (x.significand : ℚ) < 2 ^ 53 := by exact_mod_cast hx.significand_lt
    gcongr
  have hpow : (0 : ℚ) < 2 ^ x.exponent := zpow_pos (by norm_num) _
  calc (10 : ℚ) ^ (x.decimalExponent - ((17 : Nat) : Int))
      = 10 ^ x.decimalExponent / 10 ^ 17 := by
        rw [zpow_sub₀ (by norm_num), zpow_natCast]
    _ ≤ 2 ^ 53 * 2 ^ x.exponent / 10 ^ 17 := by
        gcongr
        exact (hreach.trans_lt hlt).le
    _ < 2 ^ x.exponent / 2 := by
        rw [div_lt_div_iff₀ (by norm_num) (by norm_num)]
        linarith
    _ = 2 ^ (x.exponent - 1) := by
        rw [zpow_sub_one₀ (by norm_num), div_eq_mul_inv]

end CredentialGateway.Magnitude
