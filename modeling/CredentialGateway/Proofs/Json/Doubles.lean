/-
JSON doubles as numerals.

A double is printed in one of three forms, with a point among or behind its digits, with
zeros in front of them, or with an exponent.  `Numeral` has the parts of all three, and a
number reads back from its parts if they obey the grammar (`WellFormed`): a zero at the
front stands alone, and no part that is announced is empty.

Both come down to the digits that are printed.  They are those of the shortest decimal
without the zeros at its end, so they start with a digit other than zero if the decimal has
any digits at all; that it has is `shortest_digits_pos`, and the reason why a double must fit
its format here.  Every double that is read does (`fits_of_ofNumber?`).
-/
import Mathlib
import CredentialGateway.Proofs.Json.Numbers
import CredentialGateway.Proofs.Number.Shortest
import CredentialGateway.Proofs.Text.Cut

namespace CredentialGateway.Json

/-! ### Doubles that are read -/

theorem fits_of_scaled? {significand : Nat} {exponent : Int} {x : Magnitude}
    (h : scaled? significand exponent = some x) : x.Fits := by
  unfold scaled? at h
  obtain ⟨y, -, h⟩ := Option.bind_eq_some_iff.mp h
  dsimp only at h
  split_ifs at h
  · cases h
    exact Magnitude.fits_zero
  · exact Magnitude.fits_of_mul? h
  · exact Magnitude.fits_of_div? h
  · obtain ⟨z, -, h⟩ := Option.bind_eq_some_iff.mp h
    exact Magnitude.fits_of_div? h
  · cases h
    exact Magnitude.fits_zero

theorem fits_of_withExponent? {p : Partial} {exponent : Bool × List Nat} {x : Magnitude}
    (h : withExponent? p exponent = some x) : x.Fits := by
  unfold withExponent? at h
  dsimp only at h
  split_ifs at h
  · cases h
    exact Magnitude.fits_zero
  · exact fits_of_scaled? h
  · exact fits_of_scaled? h

theorem fits_of_magnitude? {n : NumberText} {x : Magnitude} (h : magnitude? n = some x) :
    x.Fits := by
  unfold magnitude? at h
  dsimp only at h
  split at h
  · exact fits_of_scaled? h
  · exact fits_of_withExponent? h

/-- **Every double that a number is read as fits.** -/
theorem fits_of_ofNumber? {n : NumberText} {x : Binary64} (h : ofNumber? n = some (.double x)) :
    x.magnitude.Fits := by
  unfold ofNumber? at h
  split at h
  · cases h
  · obtain ⟨y, hy, hx⟩ := Option.map_eq_some_iff.mp h
    cases hx
    exact fits_of_magnitude? hy

/-! ### Numerals -/

/-- Digits as the reader takes them. -/
def digitValues (cs : List Char) : List Nat :=
  cs.map fun c => c.toNat - 48

/-- An unsigned number by its parts, as they are printed. -/
structure Numeral where
  /-- The digits before the point. -/
  whole : List Char
  /-- The digits behind the point, if there is one. -/
  fraction : Option (List Char)
  /-- Whether the exponent is negative, and its digits, if there is one. -/
  exponent : Option (Bool × List Char)

namespace Numeral

/-- The text of a fraction. -/
def fractionChars : Option (List Char) → List Char
  | none => []
  | some ds => '.' :: ds

/-- The text of an exponent. -/
def exponentChars : Option (Bool × List Char) → List Char
  | none => []
  | some (negative, ds) => 'e' :: (if negative then '-' else '+') :: ds

/-- The text of a numeral. -/
def chars (n : Numeral) : List Char :=
  n.whole ++ (fractionChars n.fraction ++ exponentChars n.exponent)

/-- What the reader makes of a numeral behind a sign. -/
def read (n : Numeral) (negative : Bool) : NumberText where
  negative := negative
  whole := digitValues n.whole
  fraction := n.fraction.map digitValues
  exponent := n.exponent.map fun e => (e.1, digitValues e.2)

/-- A run of digits that is not empty. -/
def IsRun (ds : List Char) : Prop :=
  ds ≠ [] ∧ ∀ c ∈ ds, c.isDigit = true

/-- The grammar of numbers. -/
structure WellFormed (n : Numeral) : Prop where
  whole : IsRun n.whole
  zero_alone : n.whole.head? = some '0' → n.whole = ['0']
  fraction : ∀ ds ∈ n.fraction, IsRun ds
  exponent : ∀ e ∈ n.exponent, IsRun e.2

end Numeral

/-! ### Numerals read back -/

namespace Written

open Numeral

theorem digits1?_run {ds : List Char} (hds : IsRun ds) {rest : List UInt8}
    (hrest : digits rest = ([], rest)) :
    digits1? (Utf8.encode ds ++ rest) = some (digitValues ds, rest) := by
  rw [digits1?, digits_encode_of_stop hrest ds hds.2]
  obtain ⟨c, cs, rfl⟩ := List.exists_cons_of_ne_nil hds.1
  rfl

theorem whole?_run {ds : List Char} (hds : IsRun ds)
    (hzero : ds.head? = some '0' → ds = ['0']) {rest : List UInt8}
    (hrest : digits rest = ([], rest)) :
    whole? (Utf8.encode ds ++ rest) = some (digitValues ds, rest) := by
  rw [whole?, digits_encode_of_stop hrest ds hds.2]
  obtain ⟨c, cs, rfl⟩ := List.exists_cons_of_ne_nil hds.1
  cases cs with
  | nil => rfl
  | cons d cs =>
      have hc : c ≠ '0' := by
        rintro rfl
        cases hzero rfl
      have hdigit : 48 ≤ c.toNat := by
        have h := hds.2 c List.mem_cons_self
        simp only [Char.isDigit, Bool.and_eq_true, decide_eq_true_eq] at h
        exact h.1
      have hvalue : c.toNat - 48 ≠ 0 := by
        intro h
        exact hc (Char.toNat_inj.mp (show c.toNat = '0'.toNat by
          rw [show '0'.toNat = 48 from rfl]
          omega))
      simp only [List.map_cons, if_neg hvalue]
      rfl

theorem exponent?_chars {e : Option (Bool × List Char)} (he : ∀ x ∈ e, IsRun x.2)
    {rest : List UInt8} (hrest : EndsNumber rest) :
    exponent? (Utf8.encode (exponentChars e) ++ rest) =
      some (e.map fun x => (x.1, digitValues x.2), rest) := by
  cases e with
  | none => exact exponent?_of_endsNumber hrest
  | some x =>
      obtain ⟨negative, ds⟩ := x
      have hrun := digits1?_run (he _ rfl) (digits_of_endsNumber hrest)
      cases negative with
      | false =>
          rw [show Utf8.encode (exponentChars (some (false, ds))) ++ rest =
            0x65 :: 0x2B :: (Utf8.encode ds ++ rest) from rfl, exponent?, if_pos (Or.inl rfl)]
          simp only [exponentSign, hrun]
          rfl
      | true =>
          rw [show Utf8.encode (exponentChars (some (true, ds))) ++ rest =
            0x65 :: 0x2D :: (Utf8.encode ds ++ rest) from rfl, exponent?, if_pos (Or.inl rfl)]
          simp only [exponentSign, hrun]
          rfl

/-- What stands behind the digits of a fraction is no digit and no point. -/
theorem digits_exponentChars (e : Option (Bool × List Char)) {rest : List UInt8}
    (hrest : EndsNumber rest) :
    digits (Utf8.encode (exponentChars e) ++ rest) =
        ([], Utf8.encode (exponentChars e) ++ rest) ∧
      fraction? (Utf8.encode (exponentChars e) ++ rest) =
        some (none, Utf8.encode (exponentChars e) ++ rest) := by
  cases e with
  | none => exact ⟨digits_of_endsNumber hrest, fraction?_of_endsNumber hrest⟩
  | some x => exact ⟨rfl, rfl⟩

theorem fraction?_chars {f : Option (List Char)} (hf : ∀ ds ∈ f, IsRun ds)
    (e : Option (Bool × List Char)) {rest : List UInt8} (hrest : EndsNumber rest) :
    fraction? (Utf8.encode (fractionChars f ++ exponentChars e) ++ rest) =
      some (f.map digitValues, Utf8.encode (exponentChars e) ++ rest) := by
  obtain ⟨hdigits, hpoint⟩ := digits_exponentChars e hrest
  cases f with
  | none => exact hpoint
  | some ds =>
      have hrun := digits1?_run (hf ds rfl) hdigits
      rw [show Utf8.encode (fractionChars (some ds) ++ exponentChars e) ++ rest =
        0x2E :: (Utf8.encode ds ++ (Utf8.encode (exponentChars e) ++ rest)) by
          rw [fractionChars, List.cons_append, Utf8.encode_cons, Utf8.encode_append,
            List.append_assoc, List.append_assoc]
          rfl, fraction?, hrun]
      rfl

/-- What stands behind the digits before the point is no digit. -/
theorem digits_fractionChars (f : Option (List Char)) (e : Option (Bool × List Char))
    {rest : List UInt8} (hrest : EndsNumber rest) :
    digits (Utf8.encode (fractionChars f ++ exponentChars e) ++ rest) =
      ([], Utf8.encode (fractionChars f ++ exponentChars e) ++ rest) := by
  cases f with
  | none => exact (digits_exponentChars e hrest).1
  | some ds => rfl

/-- The first octet of a numeral is a digit. -/
theorem encode_chars_head {n : Numeral} (hn : n.WellFormed) :
    ∃ b bs, Utf8.encode n.chars = b :: bs ∧ 48 ≤ b.toNat ∧ b.toNat ≤ 57 := by
  obtain ⟨c, cs, hwhole⟩ := List.exists_cons_of_ne_nil hn.whole.1
  rw [chars, hwhole, List.cons_append]
  exact encode_digit_head (hn.whole.2 c (by rw [hwhole]; exact List.mem_cons_self)) _

/-- **A numeral reads back.** -/
theorem unsigned?_chars {n : Numeral} (hn : n.WellFormed) (negative : Bool) {rest : List UInt8}
    (hrest : EndsNumber rest) :
    unsigned? negative (Utf8.encode n.chars ++ rest) = some (.number (n.read negative), rest) := by
  rw [unsigned?, chars, Utf8.encode_append, List.append_assoc,
    whole?_run hn.whole hn.zero_alone (digits_fractionChars _ _ hrest)]
  simp only [Option.bind_eq_bind, Option.bind_some, fraction?_chars hn.fraction _ hrest,
    exponent?_chars hn.exponent hrest]
  rfl

end Written

/-! ### The numeral of a double -/

/-- The digits of a number without the zeros at their end. -/
def significantDigits (n : Nat) : List Char :=
  Text.trimEnd (fun c => c == '0') (Nat.toDigits 10 n)

/-- The numeral of digits with the exponent of the first one. -/
def numeralOf (ds : List Char) (exponent : Int) : Numeral :=
  if 0 ≤ exponent ∧ exponent ≤ 15 then
    let width := exponent.toNat + 1
    let fraction := ds.drop width
    ⟨ds.take width ++ List.replicate (width - ds.length) '0',
      some (if fraction.isEmpty then ['0'] else fraction), none⟩
  else if -5 ≤ exponent ∧ exponent < 0 then
    ⟨['0'], some (List.replicate ((-exponent).toNat - 1) '0' ++ ds), none⟩
  else
    ⟨ds.take 1, if ds.length = 1 then none else some (ds.drop 1),
      some (exponent < 0, Nat.toDigits 10 exponent.natAbs)⟩

/-- The numeral of a magnitude. -/
def numeral (x : Magnitude) : Numeral :=
  if x.significand = 0 then ⟨['0'], some ['0'], none⟩
  else
    numeralOf (significantDigits x.shortest.digits)
      (x.shortest.exponent + ((Nat.toDigits 10 x.shortest.digits).length - 1 : Nat))

/-- A double as the reader finds it in the printed text. -/
def doubleText (x : Binary64) : NumberText :=
  (numeral x.magnitude).read x.negative

theorem chars_numeralOf (ds : List Char) (exponent : Int) :
    (numeralOf ds exponent).chars = renderDigits ds exponent := by
  unfold numeralOf renderDigits
  split_ifs <;> simp [Numeral.chars, Numeral.fractionChars, Numeral.exponentChars, positional, *]

theorem renderDouble_eq (x : Binary64) :
    renderDouble x =
      if x.negative then '-' :: (numeral x.magnitude).chars else (numeral x.magnitude).chars := by
  have h : (if x.magnitude.significand = 0 then ['0', '.', '0']
      else renderDigits (significantDigits x.magnitude.shortest.digits)
        (x.magnitude.shortest.exponent +
          ((Nat.toDigits 10 x.magnitude.shortest.digits).length - 1 : Nat))) =
      (numeral x.magnitude).chars := by
    unfold numeral
    split_ifs
    · rfl
    · rw [chars_numeralOf]
  rw [← h]
  rfl

theorem isRun_toDigits (n : Nat) : Numeral.IsRun (Nat.toDigits 10 n) :=
  ⟨Nat.toDigits_ne_nil, fun _ hc => Nat.isDigit_of_mem_toDigits (by omega) (by omega) hc⟩

/-- The digits of a positive number are a run, also without the zeros at their end, and do not
start with a zero. -/
theorem significantDigits_run {n : Nat} (hn : 0 < n) :
    Numeral.IsRun (significantDigits n) ∧ (significantDigits n).head? ≠ some '0' := by
  obtain ⟨trail, htrail, hsplit⟩ := Text.trimEnd_split (fun c => c == '0') (Nat.toDigits 10 n)
  have hhead : (Nat.toDigits 10 n).head? ≠ some '0' := by
    obtain ⟨d, ds, hds, hd⟩ := digitsOf_head n
    intro h
    have hvalue := congrArg List.head? hds
    rw [digitsOf, List.head?_map, h] at hvalue
    exact hd hn (Option.some_inj.mp hvalue).symm
  rw [← significantDigits] at hsplit
  cases hdigits : significantDigits n with
  | nil =>
      rw [hdigits, List.nil_append] at hsplit
      obtain ⟨c, cs, hc⟩ := List.exists_cons_of_ne_nil (Nat.toDigits_ne_nil (n := n) (b := 10))
      rw [hc] at hhead hsplit
      have hzero := htrail c (by rw [← hsplit]; exact List.mem_cons_self)
      exact absurd (by rw [beq_iff_eq.mp hzero]; rfl) hhead
  | cons c cs =>
      rw [hdigits] at hsplit
      refine ⟨⟨List.cons_ne_nil _ _, fun d hd => ?_⟩, fun h => hhead (by rw [hsplit]; exact h)⟩
      exact (isRun_toDigits n).2 d (by rw [hsplit]; exact List.mem_append_left _ hd)

theorem isRun_zero : Numeral.IsRun ['0'] :=
  isRun_toDigits 0

/-- Zeros on either side of a run make a longer one. -/
theorem isRun_zeros (m : Nat) {ds : List Char} (hds : Numeral.IsRun ds) (n : Nat) :
    Numeral.IsRun (List.replicate m '0' ++ ds ++ List.replicate n '0') := by
  refine ⟨by simp [hds.1], fun c hc => ?_⟩
  rw [List.mem_append, List.mem_append] at hc
  rcases hc with (hc | hc) | hc
  · rw [List.eq_of_mem_replicate hc]
    decide
  · exact hds.2 c hc
  · rw [List.eq_of_mem_replicate hc]
    decide

/-- Digits that do not start with a zero make a numeral, wherever the point stands. -/
theorem wellFormed_numeralOf {ds : List Char} (hds : Numeral.IsRun ds)
    (hhead : ds.head? ≠ some '0') (exponent : Int) : (numeralOf ds exponent).WellFormed := by
  have hfront : ∀ n, Numeral.IsRun (ds.take (n + 1)) := fun n =>
    ⟨by simp [hds.1], fun c hc => hds.2 c (List.mem_of_mem_take hc)⟩
  have hfirst : ∀ n, (ds.take (n + 1)).head? ≠ some '0' := fun n => by
    rwa [List.head?_take, if_neg (Nat.succ_ne_zero n)]
  have hback : ∀ n, ds.drop n ≠ [] → Numeral.IsRun (ds.drop n) := fun n h =>
    ⟨h, fun c hc => hds.2 c (List.mem_of_mem_drop hc)⟩
  unfold numeralOf
  split_ifs with hpoint hsmall
  · refine ⟨?_, ?_, ?_, by simp⟩
    · exact isRun_zeros 0 (hfront _) _
    · intro h
      rw [List.head?_append_of_ne_nil _ (hfront _).1] at h
      exact absurd h (hfirst _)
    · rintro _ ⟨⟩
      split_ifs with hempty
      · exact isRun_zero
      · exact hback _ (by rwa [List.isEmpty_iff] at hempty)
  · refine ⟨isRun_zero, fun _ => rfl, ?_, by simp⟩
    rintro _ ⟨⟩
    simpa using isRun_zeros ((-exponent).toNat - 1) hds 0
  · refine ⟨hfront 0, fun h => absurd h (hfirst 0), by simp, ?_⟩
    rintro _ ⟨⟩
    exact isRun_toDigits _
  · rename_i hmore
    refine ⟨hfront 0, fun h => absurd h (hfirst 0), ?_, ?_⟩
    · rintro _ ⟨⟩
      refine hback 1 fun h => hmore ?_
      have hpos := List.length_pos_iff.mpr hds.1
      have hlen := List.drop_eq_nil_iff.mp h
      omega
    · rintro _ ⟨⟩
      exact isRun_toDigits _

/-- **A double that fits its format is printed as a number.** -/
theorem wellFormed_numeral {x : Magnitude} (hx : x.Fits) : (numeral x).WellFormed := by
  unfold numeral
  split_ifs with hzero
  · refine ⟨isRun_zero, fun _ => rfl, ?_, by simp⟩
    rintro _ ⟨⟩
    exact isRun_zero
  · obtain ⟨hrun, hhead⟩ :=
      significantDigits_run (Magnitude.shortest_digits_pos hx (Nat.pos_of_ne_zero hzero))
    exact wellFormed_numeralOf hrun hhead _

end CredentialGateway.Json
