/-
JSON integers read back.

An integer is printed as its decimal digits with a sign in front, and the reader keeps
exactly that: sign and digits.  Two things could spoil the way back.  The digits must
not start with a zero unless they are nothing else, since the reader refuses that; and
they must end where the text behind them begins, so that text may not start with
anything that continues a number (`EndsNumber`).

What the digits are worth is settled apart from where they stand: `natOfDigits` undoes
`digitsOf` for every number, and only the last step, to a value that fits a word, has
a bound.
-/
import Mathlib
import CredentialGateway.Json.Printer
import CredentialGateway.Json.Record
import CredentialGateway.Proofs.Text.Utf8

namespace CredentialGateway.Json

/-- The decimal digits of a number, the most significant one first. -/
def digitsOf (n : Nat) : List Nat :=
  (Nat.toDigits 10 n).map fun c => c.toNat - 48

/-- An integer as the reader finds it in the printed text. -/
def integerText (n : Int) : NumberText :=
  ⟨n < 0, digitsOf n.natAbs, none, none⟩

/-- Whether a text may stand behind a number without becoming a part of it. -/
def EndsNumber (rest : List UInt8) : Prop :=
  ∀ b ∈ rest.head?, Written.digit? b = none ∧ b ≠ 0x2E ∧ b ≠ 0x65 ∧ b ≠ 0x45

theorem endsNumber_nil : EndsNumber [] := by
  intro b hb
  cases hb

/-! ### The value of the digits -/

theorem digitsOf_of_lt {n : Nat} (h : n < 10) : digitsOf n = [n] := by
  rw [digitsOf, Nat.toDigits_of_lt_base h, List.map_singleton,
    Nat.toNat_digitChar_sub_48_of_lt_ten h]

theorem digitsOf_of_le {n : Nat} (h : 10 ≤ n) : digitsOf n = digitsOf (n / 10) ++ [n % 10] := by
  rw [digitsOf, Nat.toDigits_of_base_le (by omega) h, List.map_append, List.map_singleton,
    Nat.toNat_digitChar_sub_48_of_lt_ten (Nat.mod_lt n (by omega))]
  rfl

theorem natOfDigits_append (ds : List Nat) (d : Nat) :
    natOfDigits (ds ++ [d]) = natOfDigits ds * 10 + d := by
  simp [natOfDigits]

/-- **The digits of a number are worth the number.** -/
theorem natOfDigits_digitsOf (n : Nat) : natOfDigits (digitsOf n) = n := by
  induction n using Nat.strong_induction_on with
  | _ n ih =>
      by_cases h : n < 10
      · rw [digitsOf_of_lt h]
        simp [natOfDigits]
      · rw [digitsOf_of_le (by omega), natOfDigits_append, ih (n / 10) (by omega)]
        omega

/-- The digits start with a zero only if the number is zero. -/
theorem digitsOf_head (n : Nat) : ∃ d ds, digitsOf n = d :: ds ∧ (0 < n → d ≠ 0) := by
  induction n using Nat.strong_induction_on with
  | _ n ih =>
      by_cases h : n < 10
      · exact ⟨n, [], digitsOf_of_lt h, Nat.ne_of_gt⟩
      · obtain ⟨d, ds, hds, hd⟩ := ih (n / 10) (by omega)
        refine ⟨d, ds ++ [n % 10], ?_, fun _ => hd (by omega)⟩
        rw [digitsOf_of_le (by omega), hds]
        rfl

/-- An integer that fits a word, signed or unsigned, is the value of its text. -/
theorem integer?_integerText {n : Int} (hlo : -(2 ^ 63) ≤ n) (hhi : n < 2 ^ 64) :
    integer? (integerText n) = some n := by
  have hv : natOfDigits (integerText n).whole = n.natAbs := natOfDigits_digitsOf _
  have hneg : (integerText n).negative = decide (n < 0) := rfl
  rw [integer?, hv, hneg]
  rw [if_neg (by simp [integerText])]
  by_cases h : n < 0
  · simp only [h, decide_true, if_true]
    rw [if_pos (by simp only [UInt64.size]; omega)]
    congr 1
    omega
  · simp only [h, decide_false, Bool.false_eq_true, if_false]
    rw [if_pos (by simp only [maxWord, UInt64.size]; omega)]
    congr 1
    omega

theorem word?_integerText (n : UInt64) :
    Written.word? (.number (integerText n.toNat)) = some n := by
  have hlt := n.toNat_lt
  have hneg : (integerText n.toNat).negative = false := by simp [integerText]
  rw [Written.word?, hneg, if_neg (by simp), integer?_integerText (by omega) (by omega)]
  simp

/-! ### Where the digits stand -/

namespace Written

theorem digit?_digitChar {c : Char} (h : c.isDigit = true) :
    Utf8.encodeChar c = [UInt8.ofNat c.toNat] ∧
      digit? (UInt8.ofNat c.toNat) = some (c.toNat - 48) := by
  have hrange : 48 ≤ c.toNat ∧ c.toNat ≤ 57 := by
    simp only [Char.isDigit, Bool.and_eq_true, decide_eq_true_eq] at h
    exact h
  refine ⟨Utf8.encodeChar_ascii (by omega), ?_⟩
  rw [digit?, UInt8.toNat_ofNat_of_lt' (show c.toNat < 256 by omega), if_pos hrange]

theorem digits_of_endsNumber {rest : List UInt8} (h : EndsNumber rest) :
    digits rest = ([], rest) := by
  cases rest with
  | nil => rfl
  | cons b rest =>
      obtain ⟨hdigit, -⟩ := h b rfl
      rw [digits, hdigit]

/-- The run of digits is neither longer nor shorter than what was printed. -/
theorem digits_encode_of_stop {rest : List UInt8} (hrest : digits rest = ([], rest)) :
    ∀ cs : List Char, (∀ c ∈ cs, c.isDigit = true) →
      digits (Utf8.encode cs ++ rest) = (cs.map fun c => c.toNat - 48, rest) := by
  intro cs
  induction cs with
  | nil => intro _; exact hrest
  | cons c cs ih =>
      intro hcs
      obtain ⟨hc, hcs⟩ := List.forall_mem_cons.mp hcs
      obtain ⟨hencode, hdigit⟩ := digit?_digitChar hc
      rw [Utf8.encode_cons, hencode, List.singleton_append, List.cons_append, digits, hdigit,
        ih hcs]
      rfl

theorem digits_encode {rest : List UInt8} (hrest : EndsNumber rest) (cs : List Char)
    (hcs : ∀ c ∈ cs, c.isDigit = true) :
    digits (Utf8.encode cs ++ rest) = (cs.map fun c => c.toNat - 48, rest) :=
  digits_encode_of_stop (digits_of_endsNumber hrest) cs hcs

theorem digits_toDigits {rest : List UInt8} (hrest : EndsNumber rest) (n : Nat) :
    digits (Utf8.encode (Nat.toDigits 10 n) ++ rest) = (digitsOf n, rest) :=
  digits_encode hrest _ fun _ hc => Nat.isDigit_of_mem_toDigits (by omega) (by omega) hc

theorem whole?_toDigits {rest : List UInt8} (hrest : EndsNumber rest) (n : Nat) :
    whole? (Utf8.encode (Nat.toDigits 10 n) ++ rest) = some (digitsOf n, rest) := by
  rw [whole?, digits_toDigits hrest]
  by_cases h : n < 10
  · rw [digitsOf_of_lt h]
  · obtain ⟨d, ds, hds, hd⟩ := digitsOf_head n
    rw [hds]
    cases ds with
    | nil => rfl
    | cons e ds => simp only [if_neg (hd (by omega))]

theorem fraction?_of_endsNumber {rest : List UInt8} (h : EndsNumber rest) :
    fraction? rest = some (none, rest) := by
  cases rest with
  | nil => rfl
  | cons b rest =>
      obtain ⟨-, hpoint, -, -⟩ := h b rfl
      rw [fraction?]
      rintro bs heq
      exact hpoint (List.cons.inj heq).1

theorem exponent?_of_endsNumber {rest : List UInt8} (h : EndsNumber rest) :
    exponent? rest = some (none, rest) := by
  cases rest with
  | nil => rfl
  | cons b rest =>
      obtain ⟨-, -, he, hE⟩ := h b rfl
      rw [exponent?, if_neg]
      rintro (h | h)
      · exact he h
      · exact hE h

/-- **The digits of a printed integer are read to their end.** -/
theorem unsigned?_toDigits {rest : List UInt8} (hrest : EndsNumber rest) (negative : Bool)
    (n : Nat) :
    unsigned? negative (Utf8.encode (Nat.toDigits 10 n) ++ rest)
      = some (.number ⟨negative, digitsOf n, none, none⟩, rest) := by
  rw [unsigned?, whole?_toDigits hrest]
  simp only [Option.bind_eq_bind, Option.bind_some, fraction?_of_endsNumber hrest,
    exponent?_of_endsNumber hrest]
  rfl

/-- Digits that are printed first make a digit the first octet. -/
theorem encode_digit_head {c : Char} (hc : c.isDigit = true) (cs : List Char) :
    ∃ b bs, Utf8.encode (c :: cs) = b :: bs ∧ 48 ≤ b.toNat ∧ b.toNat ≤ 57 := by
  obtain ⟨hencode, hdigit⟩ := digit?_digitChar hc
  refine ⟨UInt8.ofNat c.toNat, Utf8.encode cs, ?_, ?_⟩
  · rw [Utf8.encode_cons, hencode]
    rfl
  · rw [digit?] at hdigit
    split at hdigit
    · assumption
    · cases hdigit

/-- The first octet of a printed number is a digit. -/
theorem encode_toDigits_head (n : Nat) :
    ∃ b bs, Utf8.encode (Nat.toDigits 10 n) = b :: bs ∧ 48 ≤ b.toNat ∧ b.toNat ≤ 57 := by
  cases hds : Nat.toDigits 10 n with
  | nil => exact absurd hds Nat.toDigits_ne_nil
  | cons c cs =>
      have hc : c.isDigit = true :=
        Nat.isDigit_of_mem_toDigits (b := 10) (n := n) (by omega) (by omega) (by rw [hds]; simp)
      exact encode_digit_head hc cs

end Written

end CredentialGateway.Json
