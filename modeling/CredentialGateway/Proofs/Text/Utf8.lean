/-
UTF-8 read back.

`decode` is a machine over octets, so the statement to prove about it is not one about
whole texts but one about what it does to the octets of a single character when it
stands between characters: it yields that character and stands between characters
again.  `decodeFrom_encodeChar` is that step, by the four lengths a character can
have; everything about texts is an induction over their characters.

The ranges in `Pending` are the only delicate part.  A character of three or four
octets has its second octet in a range that depends on the first, and the arithmetic
below shows that an encoder that starts from a character never leaves it.
-/
import Mathlib
import CredentialGateway.Text.Utf8

namespace CredentialGateway.Utf8

/-! ### Single octets -/

/-- The last continuation octet completes the character. -/
theorem decodeFrom_last {lo hi bits n : Nat} (rest : List UInt8) (hn : n < 256)
    (hlo : lo ≤ n) (hhi : n ≤ hi) :
    decodeFrom (some ⟨0, lo, hi, bits⟩) (UInt8.ofNat n :: rest)
      = some (Char.ofNat (bits * 64 + n % 64)) :: decodeFrom none rest := by
  have hrange : lo ≤ n ∧ n ≤ hi := ⟨hlo, hhi⟩
  rw [decodeFrom]
  simp only [step, UInt8.toNat_ofNat_of_lt' hn, if_pos hrange]
  rfl

/-- A continuation octet before the last one adds six bits. -/
theorem decodeFrom_more {owed lo hi bits n : Nat} (rest : List UInt8) (hn : n < 256)
    (hlo : lo ≤ n) (hhi : n ≤ hi) :
    decodeFrom (some ⟨owed + 1, lo, hi, bits⟩) (UInt8.ofNat n :: rest)
      = decodeFrom (some ⟨owed, 0x80, 0xBF, bits * 64 + n % 64⟩) rest := by
  have hrange : lo ≤ n ∧ n ≤ hi := ⟨hlo, hhi⟩
  rw [decodeFrom]
  simp only [step, UInt8.toNat_ofNat_of_lt' hn, if_pos hrange]
  rfl

theorem decodeFrom_lead_whole {b : UInt8} {c : Char} (rest : List UInt8) (h : lead b = .whole c) :
    decodeFrom none (b :: rest) = some c :: decodeFrom none rest := by
  rw [decodeFrom]
  simp only [step, start, h]
  rfl

theorem decodeFrom_lead_more {b : UInt8} {p : Pending} (rest : List UInt8)
    (h : lead b = .more p) : decodeFrom none (b :: rest) = decodeFrom (some p) rest := by
  rw [decodeFrom]
  simp only [step, start, h]
  rfl

/-! ### The first octet of a character -/

theorem lead_one {v : Nat} (h : v < 0x80) : lead (UInt8.ofNat v) = .whole (Char.ofNat v) := by
  simp only [lead, UInt8.toNat_ofNat_of_lt' (show v < 256 by omega), if_pos h]

theorem lead_two {v : Nat} (hlo : 0x80 ≤ v) (hhi : v < 0x800) :
    lead (UInt8.ofNat (0xC0 + v / 64)) = .more ⟨0, 0x80, 0xBF, v / 64⟩ := by
  simp only [lead, UInt8.toNat_ofNat_of_lt' (show 0xC0 + v / 64 < 256 by omega)]
  rw [if_neg (by omega), if_neg (by omega), if_pos (by omega),
    show 0xC0 + v / 64 - 0xC0 = v / 64 by omega]

/-- Three octets: the second one starts higher behind `E0` and ends lower behind `ED`. -/
theorem lead_three {v : Nat} (hlo : 0x800 ≤ v) (hhi : v < 0x10000)
    (hs : v < 0xD800 ∨ 0xDFFF < v) :
    ∃ lo hi, lead (UInt8.ofNat (0xE0 + v / 4096)) = .more ⟨1, lo, hi, v / 4096⟩ ∧
      lo ≤ 0x80 + v / 64 % 64 ∧ 0x80 + v / 64 % 64 ≤ hi := by
  simp only [lead, UInt8.toNat_ofNat_of_lt' (show 0xE0 + v / 4096 < 256 by omega)]
  rw [if_neg (by omega), if_neg (by omega), if_neg (by omega)]
  by_cases h0 : v / 4096 = 0
  · rw [if_pos (by omega)]
    exact ⟨0xA0, 0xBF, by rw [h0], by omega, by omega⟩
  rw [if_neg (by omega)]
  by_cases hD : v / 4096 = 0xD
  · rw [if_pos (by omega)]
    exact ⟨0x80, 0x9F, by rw [hD], by omega, by omega⟩
  · rw [if_neg (by omega), if_pos (by omega)]
    rw [show 0xE0 + v / 4096 - 0xE0 = v / 4096 by omega]
    exact ⟨0x80, 0xBF, rfl, by omega, by omega⟩

/-- Four octets: the second one starts higher behind `F0` and ends lower behind `F4`. -/
theorem lead_four {v : Nat} (hlo : 0x10000 ≤ v) (hhi : v < 0x110000) :
    ∃ lo hi, lead (UInt8.ofNat (0xF0 + v / 262144)) = .more ⟨2, lo, hi, v / 262144⟩ ∧
      lo ≤ 0x80 + v / 4096 % 64 ∧ 0x80 + v / 4096 % 64 ≤ hi := by
  simp only [lead, UInt8.toNat_ofNat_of_lt' (show 0xF0 + v / 262144 < 256 by omega)]
  rw [if_neg (by omega), if_neg (by omega), if_neg (by omega), if_neg (by omega),
    if_neg (by omega), if_neg (by omega)]
  by_cases h0 : v / 262144 = 0
  · rw [if_pos (by omega)]
    exact ⟨0x90, 0xBF, by rw [h0], by omega, by omega⟩
  rw [if_neg (by omega)]
  by_cases h4 : v / 262144 = 4
  · rw [if_neg (by omega), if_pos (by omega)]
    exact ⟨0x80, 0x8F, by rw [h4], by omega, by omega⟩
  · rw [if_pos (by omega)]
    rw [show 0xF0 + v / 262144 - 0xF0 = v / 262144 by omega]
    exact ⟨0x80, 0xBF, rfl, by omega, by omega⟩

/-! ### Characters and texts -/

theorem encodeChar_ascii {c : Char} (h : c.toNat < 0x80) :
    encodeChar c = [UInt8.ofNat c.toNat] := by
  simp only [encodeChar, if_pos h]

/-- Outside ASCII every octet of a character has its top bit set. -/
theorem le_of_mem_encodeChar {c : Char} {b : UInt8} (h : 0x80 ≤ c.toNat)
    (hb : b ∈ encodeChar c) : 0x80 ≤ b.toNat := by
  have hvalid : c.toNat < 0x110000 := by
    have : c.toNat < 0xD800 ∨ 0xDFFF < c.toNat ∧ c.toNat < 0x110000 := c.valid
    omega
  have hoctet : ∀ n : Nat, 0x80 ≤ n → n < 256 → b = UInt8.ofNat n → 0x80 ≤ b.toNat := by
    rintro n hlo hhi rfl
    rw [UInt8.toNat_ofNat_of_lt' hhi]
    exact hlo
  simp only [encodeChar, if_neg (show ¬ c.toNat < 0x80 by omega)] at hb
  split at hb
  · simp only [List.mem_cons, List.not_mem_nil, or_false] at hb
    rcases hb with hb | hb <;> exact hoctet _ (by omega) (by omega) hb
  split at hb
  · simp only [List.mem_cons, List.not_mem_nil, or_false] at hb
    rcases hb with hb | hb | hb <;> exact hoctet _ (by omega) (by omega) hb
  · simp only [List.mem_cons, List.not_mem_nil, or_false] at hb
    rcases hb with hb | hb | hb | hb <;> exact hoctet _ (by omega) (by omega) hb

/-- The octets of a character yield that character and nothing else. -/
theorem decodeFrom_encodeChar (c : Char) (rest : List UInt8) :
    decodeFrom none (encodeChar c ++ rest) = some c :: decodeFrom none rest := by
  have hvalid : c.toNat < 0xD800 ∨ 0xDFFF < c.toNat ∧ c.toNat < 0x110000 := c.valid
  have hback : Char.ofNat c.toNat = c := Char.ofNat_toNat c
  simp only [encodeChar]
  by_cases h1 : c.toNat < 0x80
  · rw [if_pos h1, List.cons_append, List.nil_append,
      decodeFrom_lead_whole rest (lead_one h1), hback]
  rw [if_neg h1]
  by_cases h2 : c.toNat < 0x800
  · rw [if_pos h2, List.cons_append, List.cons_append, List.nil_append,
      decodeFrom_lead_more _ (lead_two (by omega) h2),
      decodeFrom_last rest (by omega) (by omega) (by omega),
      show c.toNat / 64 * 64 + (0x80 + c.toNat % 64) % 64 = c.toNat by omega, hback]
  rw [if_neg h2]
  by_cases h3 : c.toNat < 0x10000
  · obtain ⟨lo, hi, hlead, hlo, hhi⟩ := lead_three (by omega) h3 (by omega)
    rw [if_pos h3, List.cons_append, List.cons_append, List.cons_append, List.nil_append,
      decodeFrom_lead_more _ hlead, decodeFrom_more _ (by omega) hlo hhi,
      decodeFrom_last rest (by omega) (by omega) (by omega),
      show (c.toNat / 4096 * 64 + (0x80 + c.toNat / 64 % 64) % 64) * 64
        + (0x80 + c.toNat % 64) % 64 = c.toNat by omega, hback]
  · obtain ⟨lo, hi, hlead, hlo, hhi⟩ := lead_four (by omega) (by omega : c.toNat < 0x110000)
    rw [if_neg h3, List.cons_append, List.cons_append, List.cons_append, List.cons_append,
      List.nil_append, decodeFrom_lead_more _ hlead, decodeFrom_more _ (by omega) hlo hhi,
      decodeFrom_more _ (by omega) (by omega) (by omega),
      decodeFrom_last rest (by omega) (by omega) (by omega),
      show ((c.toNat / 262144 * 64 + (0x80 + c.toNat / 4096 % 64) % 64) * 64
        + (0x80 + c.toNat / 64 % 64) % 64) * 64 + (0x80 + c.toNat % 64) % 64 = c.toNat by omega,
      hback]

theorem encode_cons (c : Char) (cs : List Char) : encode (c :: cs) = encodeChar c ++ encode cs :=
  List.flatMap_cons

theorem encode_append (cs ds : List Char) : encode (cs ++ ds) = encode cs ++ encode ds :=
  List.flatMap_append

theorem decode_encode (cs : List Char) : decode (encode cs) = cs.map some := by
  induction cs with
  | nil => rfl
  | cons c cs ih =>
      rw [encode_cons, decode, decodeFrom_encodeChar]
      exact congrArg (some c :: ·) ih

/-- **A text is read back from its octets.** -/
theorem decode?_encode (cs : List Char) : decode? (encode cs) = some cs := by
  rw [decode?, decode_encode]
  induction cs with
  | nil => rfl
  | cons c cs ih => simp [ih]

theorem string?_encodeString (s : String) : string? (encodeString s) = some s := by
  rw [string?, encodeString, decode?_encode]
  simp

/-- Texts with the same octets are the same. -/
theorem encode_injective {cs ds : List Char} (h : encode cs = encode ds) : cs = ds := by
  have hback := congrArg decode? h
  rw [decode?_encode, decode?_encode] at hback
  exact Option.some.inj hback

/-! ### Octets of ASCII -/

/-- What is remembered of a character waits for an octet with its top bit set. -/
def Waits (state : Option Pending) : Prop :=
  ∀ p, state = some p → 0x80 ≤ p.least

theorem le_least_of_lead {b : UInt8} {p : Pending} (h : lead b = .more p) : 0x80 ≤ p.least := by
  simp only [lead] at h
  split_ifs at h <;> cases h <;> simp

theorem waits_start (b : UInt8) : Waits (start b).2 := by
  intro p hp
  rw [start] at hp
  cases hlead : lead b with
  | whole c =>
      rw [hlead] at hp
      cases hp
  | more q =>
      rw [hlead] at hp
      cases hp
      exact le_least_of_lead hlead
  | stray =>
      rw [hlead] at hp
      cases hp

theorem waits_step {state : Option Pending} (b : UInt8) : Waits (step state b).2 := by
  cases state with
  | none => exact waits_start b
  | some q =>
      rw [step]
      split
      · split
        · intro p hp
          cases hp
        · intro p hp
          cases hp
          exact Nat.le_refl 0x80
      · exact waits_start b

/-- An octet of ASCII is a character of its own wherever it stands. -/
theorem mem_decodeFrom {b : UInt8} (hb : b.toNat < 0x80) {bs : List UInt8} :
    ∀ {state : Option Pending}, Waits state → b ∈ bs →
      some (Char.ofNat b.toNat) ∈ decodeFrom state bs := by
  have hstart : some (Char.ofNat b.toNat) ∈ (start b).1 := by
    simp [start, lead, hb]
  induction bs with
  | nil =>
      intro state hstate h
      cases h
  | cons c rest ih =>
      intro state hstate h
      rw [decodeFrom, List.mem_append]
      rcases List.mem_cons.mp h with rfl | h
      · left
        cases state with
        | none => exact hstart
        | some p =>
            have hout : ¬ (p.least ≤ b.toNat ∧ b.toNat ≤ p.greatest) := by
              have := hstate p rfl
              omega
            rw [step, if_neg hout]
            exact List.mem_cons_of_mem none hstart
      · exact .inr (ih (waits_step c) h)

/-- An octet of ASCII in the encoding of a text is a character of the text. -/
theorem mem_of_mem_encode {b : UInt8} (hb : b.toNat < 0x80) {cs : List Char}
    (h : b ∈ encode cs) : Char.ofNat b.toNat ∈ cs := by
  have hidle : Waits none := fun p hp => by cases hp
  have hdecode := mem_decodeFrom hb hidle h
  rw [← decode, decode_encode] at hdecode
  simpa using hdecode

end CredentialGateway.Utf8
