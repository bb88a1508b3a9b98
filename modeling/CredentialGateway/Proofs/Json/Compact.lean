/-
The printer leaves no white space between the parts of a text.

Outside its strings a text is brackets, commas, colons, words and numbers, and white space
may stand between any two of them.  `outside` gives the octets of a text outside its
strings, whatever stands in the strings.  A piece of a text is tight if it closes the
strings it opens and has no white space outside them; pieces that are tight are so one after
the other, and the printer puts together pieces that are.
-/
import Mathlib
import CredentialGateway.Proofs.Json.Parts

namespace CredentialGateway.Json

/-- The octets of a text outside its strings, their quotes included, from outside a string on or
from inside one. -/
def outside : (inside : Bool) → List UInt8 → List UInt8
  | _, [] => []
  | false, b :: bs => b :: outside (b == 0x22) bs
  | true, 0x5C :: _ :: bs => outside true bs
  | true, b :: bs => outside (b != 0x22) bs

/-- Whether a text has no white space outside its strings. -/
def IsCompact (text : List UInt8) : Prop :=
  ∀ b ∈ outside false text, Written.isSpace b = false

/-- A piece of a text that closes its strings and has no white space outside them. -/
def IsTight (piece : List Char) : Prop :=
  ∃ own, (∀ b ∈ own, Written.isSpace b = false) ∧
    ∀ rest, outside false (Utf8.encode piece ++ rest) = own ++ outside false rest

variable {cs ds : List Char}

theorem IsTight.isCompact (h : IsTight cs) : IsCompact (Utf8.encode cs) := by
  obtain ⟨own, hown, hscan⟩ := h
  have hwhole := hscan []
  rw [List.append_nil, outside, List.append_nil] at hwhole
  rwa [IsCompact, hwhole]

theorem isTight_nil : IsTight [] :=
  ⟨[], List.forall_mem_nil _, fun _ => rfl⟩

theorem IsTight.append (hcs : IsTight cs) (hds : IsTight ds) : IsTight (cs ++ ds) := by
  obtain ⟨own, hown, hscan⟩ := hcs
  obtain ⟨own', hown', hscan'⟩ := hds
  refine ⟨own ++ own', List.forall_mem_append.mpr ⟨hown, hown'⟩, fun rest => ?_⟩
  rw [Utf8.encode_append, List.append_assoc, hscan, hscan', List.append_assoc]

/-- A character of a text that is neither white space nor a quote. -/
def IsPlainMark (c : Char) : Prop :=
  c.toNat < 0x80 ∧ c ≠ '"' ∧ Written.isSpace (UInt8.ofNat c.toNat) = false

instance (c : Char) : Decidable (IsPlainMark c) :=
  inferInstanceAs (Decidable (_ ∧ _))

theorem isTight_mark {c : Char} (h : IsPlainMark c) : IsTight [c] := by
  obtain ⟨hascii, hquote, hspace⟩ := h
  refine ⟨[UInt8.ofNat c.toNat], List.forall_mem_singleton.mpr hspace, fun rest => ?_⟩
  have hoctet : (UInt8.ofNat c.toNat == 0x22) = false := by
    rw [beq_eq_false_iff_ne]
    intro heq
    have hvalue := congrArg UInt8.toNat heq
    rw [UInt8.toNat_ofNat_of_lt' (show c.toNat < 256 by omega)] at hvalue
    refine hquote ?_
    rw [← Char.ofNat_toNat c, hvalue]
    rfl
  rw [Utf8.encode_cons, Utf8.encodeChar_ascii hascii]
  change outside false (UInt8.ofNat c.toNat :: rest) = UInt8.ofNat c.toNat :: outside false rest
  rw [outside, hoctet]

theorem IsTight.cons {c : Char} (hc : IsPlainMark c) (h : IsTight cs) : IsTight (c :: cs) :=
  (isTight_mark hc).append h

theorem isTight_of_marks (h : ∀ c ∈ cs, IsPlainMark c) : IsTight cs := by
  induction cs with
  | nil => exact isTight_nil
  | cons c cs ih =>
      obtain ⟨hc, hcs⟩ := List.forall_mem_cons.mp h
      exact (ih hcs).cons hc

/-! ### Inside a string -/

theorem outside_octet {b : UInt8} (rest : List UInt8) (hquote : b ≠ 0x22) (hslash : b ≠ 0x5C) :
    outside true (b :: rest) = outside true rest := by
  rw [outside, bne_iff_ne.mpr hquote]
  intro _ _ h
  exact absurd h hslash

theorem outside_octets {bs : List UInt8} (rest : List UInt8)
    (h : ∀ b ∈ bs, b ≠ 0x22 ∧ b ≠ 0x5C) : outside true (bs ++ rest) = outside true rest := by
  induction bs with
  | nil => rfl
  | cons b bs ih =>
      obtain ⟨⟨hquote, hslash⟩, hbs⟩ := List.forall_mem_cons.mp h
      rw [List.cons_append, outside_octet _ hquote hslash, ih hbs]

theorem digit_plain : ∀ n < 16,
    UInt8.ofNat (Hex.digit n).toNat ≠ 0x22 ∧ UInt8.ofNat (Hex.digit n).toNat ≠ 0x5C := by
  decide

/-- A printed character is an escape, or its octets as they are. -/
theorem encode_escapeChar_cases (c : Char) :
    (∃ e bs, Utf8.encode (escapeChar c) = 0x5C :: e :: bs ∧ ∀ b ∈ bs, b ≠ 0x22 ∧ b ≠ 0x5C) ∨
      ∀ b ∈ Utf8.encode (escapeChar c), b ≠ 0x22 ∧ b ≠ 0x5C := by
  unfold escapeChar
  split_ifs with hquote hslash hplain
  · exact .inl ⟨_, [], rfl, List.forall_mem_nil _⟩
  · exact .inl ⟨_, [], rfl, List.forall_mem_nil _⟩
  · refine .inr fun b hb => ?_
    rw [Utf8.encode, List.flatMap_singleton] at hb
    have hq : c.toNat ≠ 0x22 := fun h => hquote (by rw [← Char.ofNat_toNat c, h])
    have hs : c.toNat ≠ 0x5C := fun h => hslash (by rw [← Char.ofNat_toNat c, h])
    exact (Written.plain_of_mem_encodeChar hplain hq hs hb).2
  · exact .inl ⟨_, [], rfl, List.forall_mem_nil _⟩
  · exact .inl ⟨_, [], rfl, List.forall_mem_nil _⟩
  · exact .inl ⟨_, [], rfl, List.forall_mem_nil _⟩
  · exact .inl ⟨_, [], rfl, List.forall_mem_nil _⟩
  · exact .inl ⟨_, [], rfl, List.forall_mem_nil _⟩
  · -- What is left is an escape of four digits.
    have hhigh : c.toNat / 16 < 16 := by omega
    have hlow : c.toNat % 16 < 16 := by omega
    refine .inl ⟨0x75, [0x30, 0x30, UInt8.ofNat (Hex.digit (c.toNat / 16)).toNat,
      UInt8.ofNat (Hex.digit (c.toNat % 16)).toNat], ?_, ?_⟩
    · simp only [Utf8.encode, List.flatMap_cons, List.flatMap_nil,
        Written.encodeChar_digit _ hhigh, Written.encodeChar_digit _ hlow]
      rfl
    · simp only [List.forall_mem_cons]
      exact ⟨by decide, by decide, digit_plain _ hhigh, digit_plain _ hlow,
        List.forall_mem_nil _⟩

/-- **A printed character leaves the scan inside its string.** -/
theorem outside_escapeChar (c : Char) (rest : List UInt8) :
    outside true (Utf8.encode (escapeChar c) ++ rest) = outside true rest := by
  rcases encode_escapeChar_cases c with ⟨e, bs, hescape, hbs⟩ | hplain
  · rw [hescape, List.cons_append, List.cons_append, outside]
    exact outside_octets rest hbs
  · exact outside_octets rest hplain

theorem outside_escapeText (cs : List Char) (rest : List UInt8) :
    outside true (Utf8.encode (cs.flatMap escapeChar) ++ rest) = outside true rest := by
  induction cs with
  | nil => rfl
  | cons c cs ih =>
      rw [List.flatMap_cons, Utf8.encode_append, List.append_assoc, outside_escapeChar, ih]

theorem isTight_renderString (s : String) : IsTight (renderString s) := by
  refine ⟨[0x22], List.forall_mem_singleton.mpr rfl, fun rest => ?_⟩
  rw [Written.encode_renderString, List.cons_append, List.append_assoc, List.singleton_append]
  change 0x22 :: outside true _ = 0x22 :: outside false rest
  rw [outside_escapeText]
  rfl

/-! ### Values -/

theorem isPlainMark_digitChar : ∀ n < 10, IsPlainMark (Nat.digitChar n) := by
  decide

theorem isTight_toDigits (n : Nat) : IsTight (Nat.toDigits 10 n) := by
  induction n using Nat.strong_induction_on with
  | _ n ih =>
      by_cases h : n < 10
      · rw [Nat.toDigits_of_lt_base h]
        exact isTight_mark (isPlainMark_digitChar n h)
      · rw [Nat.toDigits_of_base_le (by omega) (by omega)]
        exact (ih (n / 10) (by omega)).append
          (isTight_mark (isPlainMark_digitChar _ (Nat.mod_lt n (by omega))))

theorem isTight_renderInteger (n : Int) : IsTight (renderInteger n) := by
  cases n with
  | ofNat n => exact isTight_toDigits n
  | negSucc n => exact (isTight_toDigits (n + 1)).cons (by decide)

theorem isTight_renderItems {vs : List Json} (h : ∀ v ∈ vs, IsTight v.render) :
    IsTight (renderItems vs) := by
  induction vs with
  | nil => exact isTight_mark (by decide)
  | cons v vs ih =>
      obtain ⟨hv, hvs⟩ := List.forall_mem_cons.mp h
      exact (hv.append (ih hvs)).cons (by decide)

theorem isTight_renderMembers {ms : List (String × Json)} (h : ∀ m ∈ ms, IsTight m.2.render) :
    IsTight (renderMembers ms) := by
  induction ms with
  | nil => exact isTight_mark (by decide)
  | cons m ms ih =>
      obtain ⟨hv, hvs⟩ := List.forall_mem_cons.mp h
      have hname := isTight_renderString m.1
      exact ((hname.append (hv.cons (by decide))).append (ih hvs)).cons (by decide)

theorem isTight_render : ∀ v : Json, isExact v = true → IsTight v.render := by
  intro v
  induction v using inductParts with
  | scalar v hv =>
      intro hexact
      cases v with
      | null => exact isTight_of_marks (by simp [render, IsPlainMark, Written.isSpace])
      | bool b =>
          cases b with
          | false => exact isTight_of_marks (by simp [render, IsPlainMark, Written.isSpace])
          | true => exact isTight_of_marks (by simp [render, IsPlainMark, Written.isSpace])
      | integer n => exact isTight_renderInteger n
      | double x => cases hexact
      | string s => exact isTight_renderString s
      | array items | object members => cases hv
  | array items ih =>
      intro hexact
      have hitems : ∀ v ∈ items, IsTight v.render :=
        fun v hv => ih v hv (isExactItems_iff.mp hexact v hv)
      cases items with
      | nil => exact (isTight_mark (by decide)).cons (by decide)
      | cons v vs =>
          obtain ⟨hv, hvs⟩ := List.forall_mem_cons.mp hitems
          exact (hv.append (isTight_renderItems hvs)).cons (by decide)
  | object members ih =>
      intro hexact
      have hmembers : ∀ m ∈ members, IsTight m.2.render :=
        fun m hm => ih m hm (isExactMembers_iff.mp hexact m hm)
      cases members with
      | nil => exact (isTight_mark (by decide)).cons (by decide)
      | cons m ms =>
          obtain ⟨hv, hvs⟩ := List.forall_mem_cons.mp hmembers
          have hname := isTight_renderString m.1
          exact ((hname.append (hv.cons (by decide))).append (isTight_renderMembers hvs)).cons
            (by decide)

/-- **What is printed of a value without doubles is compact.** -/
theorem isCompact_octets {v : Json} (h : isExact v = true) : IsCompact v.octets :=
  (isTight_render v h).isCompact

end CredentialGateway.Json
