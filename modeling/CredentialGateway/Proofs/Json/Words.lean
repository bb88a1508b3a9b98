/-
Integers that fit a word keep their value.

`value` is the number that a literal denotes, whatever becomes of it when it is read.  A
literal without fraction and exponent that fits a 64-bit word, signed or unsigned, is read
as that number and printed as that number again.  One of them is not read as an integer:
zero with a minus sign is the double zero with that sign.  It is printed with a point, and
reads back all the same.
-/
import Mathlib
import CredentialGateway.Proofs.Json.Normal

namespace CredentialGateway.Json

deriving instance DecidableEq for NumberText

namespace NumberText

/-- The number that a literal denotes. -/
def value (n : NumberText) : ℚ :=
  let fraction := n.fraction.getD []
  let power : Int := match n.exponent with
    | some (true, ds) => -natOfDigits ds
    | some (false, ds) => natOfDigits ds
    | none => 0
  (if n.negative then -1 else 1) *
    (natOfDigits n.whole + natOfDigits fraction / 10 ^ fraction.length) * 10 ^ power

/-- The integer before the point. -/
def integer (n : NumberText) : Int :=
  if n.negative then -natOfDigits n.whole else natOfDigits n.whole

/-- Whether a literal has neither fraction nor exponent. -/
def IsPlain (n : NumberText) : Prop :=
  n.fraction = none ∧ n.exponent = none

/-- Whether a literal is an integer that fits a 64-bit word, signed or unsigned. -/
def IsWord (n : NumberText) : Prop :=
  n.IsPlain ∧ -(2 ^ 63) ≤ n.integer ∧ n.integer < 2 ^ 64

instance (n : NumberText) : Decidable n.IsPlain :=
  inferInstanceAs (Decidable (_ ∧ _))

instance (n : NumberText) : Decidable n.IsWord :=
  inferInstanceAs (Decidable (_ ∧ _))

/-- A literal without fraction and exponent denotes the integer before the point. -/
theorem value_of_isPlain {n : NumberText} (h : n.IsPlain) : n.value = n.integer := by
  obtain ⟨hfraction, hexponent⟩ := h
  unfold value integer
  rw [hfraction, hexponent]
  cases n.negative with
  | false => simp [natOfDigits]
  | true => simp [natOfDigits]

end NumberText

/-- An integer that was read fits a word. -/
theorem word_of_ofNumber? {t : NumberText} {n : Int} (h : ofNumber? t = some (.integer n)) :
    -(2 ^ 63) ≤ n ∧ n < 2 ^ 64 := by
  rw [ofNumber?] at h
  split at h
  · rename_i i hi
    cases h
    rw [integer?] at hi
    split_ifs at hi
    · obtain ⟨⟨-, hfits⟩, hn⟩ := Option.ite_none_right_eq_some.mp hi
      simp only [UInt64.size] at hfits
      cases hn
      omega
    · obtain ⟨hfits, hn⟩ := Option.ite_none_right_eq_some.mp hi
      simp only [maxWord, UInt64.size] at hfits
      cases hn
      omega
  · obtain ⟨x, -, hx⟩ := Option.map_eq_some_iff.mp h
    cases hx

/-! ### Zero with a minus sign -/

theorem eq_zero_of_natOfDigits {ds : List Nat} (h : natOfDigits ds = 0) : ∀ d ∈ ds, d = 0 := by
  induction ds using List.reverseRecOn with
  | nil => simp
  | append_singleton ds d ih =>
      rw [natOfDigits_append] at h
      intro e he
      rcases List.mem_append.mp he with he | he
      · exact ih (by omega) e he
      · rw [List.mem_singleton.mp he]
        omega

/-- Zeros add nothing to a significand of zero. -/
theorem whole_zeros {ds : List Nat} (h : ∀ d ∈ ds, d = 0) :
    Partial.whole ⟨0, 0⟩ ds = ⟨0, 0⟩ := by
  induction ds with
  | nil => rfl
  | cons d ds ih =>
      obtain ⟨rfl, hds⟩ := List.forall_mem_cons.mp h
      rw [Partial.whole, if_pos (show 0 * 10 + 0 ≤ maxWord from Nat.zero_le _)]
      exact ih hds

theorem magnitude?_zero {n : NumberText} (hplain : n.IsPlain) (hzero : natOfDigits n.whole = 0) :
    magnitude? n = some .zero := by
  unfold magnitude?
  dsimp only
  rw [hplain.1, hplain.2, whole_zeros (eq_zero_of_natOfDigits hzero)]
  rfl

/-! ### Words read and printed -/

/-- What a literal that fits a word is read as: the integer that it denotes, or zero with a
minus sign. -/
theorem ofNumber?_of_isWord {n : NumberText} (h : n.IsWord) :
    ofNumber? n = some (.integer n.integer) ∨
      n.integer = 0 ∧ ofNumber? n = some (.double ⟨true, .zero⟩) := by
  obtain ⟨hplain, hlo, hhi⟩ := h
  unfold NumberText.integer at *
  unfold ofNumber? integer?
  rw [hplain.1, hplain.2]
  cases hsign : n.negative with
  | false =>
      rw [hsign] at hhi
      simp only [Bool.false_eq_true, if_false] at hhi
      left
      simp only [Option.isSome_none, Bool.or_self, Bool.false_eq_true, if_false]
      rw [if_pos (by simp only [maxWord, UInt64.size]; omega)]
  | true =>
      rw [hsign] at hlo
      simp only [if_true] at hlo
      by_cases hzero : natOfDigits n.whole = 0
      · right
        refine ⟨by simp [hzero], ?_⟩
        simp [hzero, magnitude?_zero hplain hzero]
      · left
        simp only [Option.isSome_none, Bool.or_self, Bool.false_eq_true, if_false, if_true]
        rw [if_pos (by simp only [UInt64.size]; omega)]

/-- An integer that fits a word reads back. -/
theorem rereads_integer {i : Int} (hlo : -(2 ^ 63) ≤ i) (hhi : i < 2 ^ 64) :
    Rereads (.integer i) := by
  rw [Rereads, written, ofWritten?, ofNumber?, integer?_integerText hlo hhi]

theorem value_integerText (i : Int) : (integerText i).value = i := by
  rw [NumberText.value_of_isPlain ⟨rfl, rfl⟩, NumberText.integer, integerText]
  simp only [natOfDigits_digitsOf]
  congr 1
  split_ifs with hneg
  · rw [decide_eq_true_eq] at hneg
    omega
  · rw [decide_eq_true_eq] at hneg
    omega

/-- **A literal that fits a word is printed with its value.** -/
theorem value_of_isWord {n m : NumberText} (h : n.IsWord) {v : Json} (hv : ofNumber? n = some v)
    (hm : written v = .number m) : m.value = n.value := by
  rw [NumberText.value_of_isPlain h.1]
  rcases ofNumber?_of_isWord h with hread | ⟨hzero, hread⟩
  · rw [hread] at hv
    cases hv
    cases hm
    exact value_integerText _
  · rw [hread] at hv
    cases hv
    cases hm
    rw [hzero, show doubleText ⟨true, .zero⟩ = ⟨true, [0], some [0], none⟩ from rfl]
    norm_num [NumberText.value, natOfDigits]

end CredentialGateway.Json
