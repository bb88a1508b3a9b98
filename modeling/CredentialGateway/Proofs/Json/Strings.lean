/-
JSON strings read back.

The reader does not turn a string into a text at once: it keeps pieces, an octet for
what stands as it is or behind a one-letter escape, and a code unit for a four-digit
escape.  So there is a middle between printer and reader, `stringPieces`: the pieces
of a printed string.  That the reader finds them in the printed octets is a statement
about one character with any text behind it; that they stand for the string again is
UTF-8 read back.

The printer writes a code unit only for control characters, so no printed string has a
surrogate, and the rules that pair surrogates never apply to it.
-/
import Mathlib
import CredentialGateway.Json.Printer
import CredentialGateway.Proofs.Text.Utf8

namespace CredentialGateway.Json

/-- Whether a character is printed as a code unit: a control character without an escape of
one letter. -/
def hasUnitEscape (c : Char) : Bool :=
  c.toNat < 0x20 && !([0x08, 0x09, 0x0A, 0x0C, 0x0D].contains c.toNat)

/-- The pieces that the reader finds for a printed character. -/
def charPieces (c : Char) : List Piece :=
  if hasUnitEscape c then [.unit c.toNat] else (Utf8.encodeChar c).map .octet

/-- The pieces that the reader finds for a printed string. -/
def stringPieces (s : String) : List Piece :=
  s.toList.flatMap charPieces

/-! ### From pieces to the string -/

theorem pieceOctets?_octets (bs : List UInt8) (ps : List Piece) :
    pieceOctets? (bs.map .octet ++ ps) = (pieceOctets? ps).map (bs ++ ·) := by
  induction bs with
  | nil => simp
  | cons b bs ih =>
      rw [List.map_cons, List.cons_append, pieceOctets?, ih, Option.map_map]
      rfl

/-- A code unit below the surrogates is a character of its own. -/
theorem pieceOctets?_unit {u : Nat} (hu : u < 0xD800) (ps : List Piece) :
    pieceOctets? (.unit u :: ps)
      = (pieceOctets? ps).map (Utf8.encodeChar (Char.ofNat u) ++ ·) := by
  match ps with
  | [] | .octet _ :: _ =>
      conv_lhs => rw [pieceOctets?.eq_def]
      simp only [if_neg (show ¬ (0xD800 ≤ u ∧ u < 0xE000) by omega)]
  | .unit low :: rest =>
      conv_lhs => rw [pieceOctets?.eq_def]
      simp only [if_neg (show ¬ (0xD800 ≤ u ∧ u < 0xDC00) by omega),
        if_neg (show ¬ (0xDC00 ≤ u ∧ u < 0xE000) by omega)]

theorem pieceOctets?_charPieces (c : Char) (ps : List Piece) :
    pieceOctets? (charPieces c ++ ps) = (pieceOctets? ps).map (Utf8.encodeChar c ++ ·) := by
  rw [charPieces]
  by_cases hunit : hasUnitEscape c = true
  · have hc : c.toNat < 0x20 := by
      simp only [hasUnitEscape, Bool.and_eq_true, decide_eq_true_eq] at hunit
      exact hunit.1
    rw [if_pos hunit, List.singleton_append, pieceOctets?_unit (by omega), Char.ofNat_toNat]
  · rw [if_neg hunit, pieceOctets?_octets]

theorem pieceOctets?_flatMap (cs : List Char) :
    pieceOctets? (cs.flatMap charPieces) = some (Utf8.encode cs) := by
  induction cs with
  | nil => rfl
  | cons c cs ih =>
      rw [List.flatMap_cons, pieceOctets?_charPieces, ih, Option.map_some, Utf8.encode_cons]

theorem pieceString?_stringPieces (s : String) : pieceString? (stringPieces s) = some s := by
  rw [pieceString?, stringPieces, pieceOctets?_flatMap]
  exact Utf8.string?_encodeString s

/-! ### From the printed octets to the pieces -/

namespace Written

theorem pieces?_octet {b : UInt8} (bs : List UInt8) (hlo : 0x20 ≤ b.toNat) (hquote : b ≠ 0x22)
    (hslash : b ≠ 0x5C) :
    pieces? (b :: bs) = (pieces? bs).map fun p => (.octet b :: p.1, p.2) := by
  rw [pieces?, if_neg (by simp only [not_or]; exact ⟨by omega, hslash⟩)]
  · cases pieces? bs <;> rfl
  · exact hquote
  · intro _ _ _ _ _ h
    exact absurd h hslash
  · intro _ _ h
    exact absurd h hslash

theorem pieces?_octets {bs : List UInt8} (rest : List UInt8)
    (h : ∀ b ∈ bs, 0x20 ≤ b.toNat ∧ b ≠ 0x22 ∧ b ≠ 0x5C) :
    pieces? (bs ++ rest) = (pieces? rest).map fun p => (bs.map .octet ++ p.1, p.2) := by
  induction bs with
  | nil => simp
  | cons b bs ih =>
      obtain ⟨⟨hlo, hquote, hslash⟩, hbs⟩ := List.forall_mem_cons.mp h
      rw [List.cons_append, pieces?_octet _ hlo hquote hslash, ih hbs, Option.map_map]
      rfl

theorem pieces?_escape {e b : UInt8} (bs : List UInt8) (he : escaped? e = some b) :
    pieces? (0x5C :: e :: bs) = (pieces? bs).map fun p => (.octet b :: p.1, p.2) := by
  rw [pieces?, he]
  · cases pieces? bs <;> rfl
  · rintro _ _ _ _ _ rfl
    simp [escaped?] at he

theorem pieces?_unit {a b c d : UInt8} {u : Nat} (bs : List UInt8) (hu : unit? a b c d = some u) :
    pieces? (0x5C :: 0x75 :: a :: b :: c :: d :: bs)
      = (pieces? bs).map fun p => (.unit u :: p.1, p.2) := by
  rw [pieces?, hu]
  cases pieces? bs <;> rfl

/-- A character with an escape of one letter. -/
theorem pieces?_letter {c : Char} {n : Nat} {e b : UInt8} (rest : List UInt8) (hc : c.toNat = n)
    (hprint : Utf8.encode (escapeChar (Char.ofNat n)) = [0x5C, e]) (he : escaped? e = some b)
    (hpieces : charPieces (Char.ofNat n) = [.octet b]) :
    pieces? (Utf8.encode (escapeChar c) ++ rest)
      = (pieces? rest).map fun p => (charPieces c ++ p.1, p.2) := by
  rw [← Char.ofNat_toNat c, hc, hprint, hpieces]
  exact pieces?_escape rest he

/-- Octets of a character that needs no escape. -/
theorem plain_of_mem_encodeChar {c : Char} {b : UInt8} (hlo : 0x20 ≤ c.toNat)
    (hquote : c.toNat ≠ 0x22) (hslash : c.toNat ≠ 0x5C) (hb : b ∈ Utf8.encodeChar c) :
    0x20 ≤ b.toNat ∧ b ≠ 0x22 ∧ b ≠ 0x5C := by
  by_cases hascii : c.toNat < 0x80
  · rw [Utf8.encodeChar_ascii hascii, List.mem_singleton] at hb
    have hn : b.toNat = c.toNat := by
      rw [hb, UInt8.toNat_ofNat_of_lt' (show c.toNat < 256 by omega)]
    refine ⟨by omega, ?_, ?_⟩
    · rintro rfl
      exact hquote hn.symm
    · rintro rfl
      exact hslash hn.symm
  · have hn := Utf8.le_of_mem_encodeChar (Nat.le_of_not_lt hascii) hb
    refine ⟨by omega, ?_, ?_⟩
    · rintro rfl
      exact absurd hn (by decide)
    · rintro rfl
      exact absurd hn (by decide)

theorem encodeChar_digit : ∀ n < 16,
    Utf8.encodeChar (Hex.digit n) = [UInt8.ofNat (Hex.digit n).toNat] := by
  decide

theorem unit?_digits : ∀ n < 0x20,
    unit? 0x30 0x30 (UInt8.ofNat (Hex.digit (n / 16)).toNat)
      (UInt8.ofNat (Hex.digit (n % 16)).toNat) = some n := by
  decide

/-- **The reader finds the pieces of a printed character**, whatever stands behind it. -/
theorem pieces?_escapeChar (c : Char) (rest : List UInt8) :
    pieces? (Utf8.encode (escapeChar c) ++ rest)
      = (pieces? rest).map fun p => (charPieces c ++ p.1, p.2) := by
  by_cases hquote : c.toNat = 0x22
  · exact pieces?_letter (e := 0x22) (b := 0x22) rest hquote rfl rfl rfl
  by_cases hslash : c.toNat = 0x5C
  · exact pieces?_letter (e := 0x5C) (b := 0x5C) rest hslash rfl rfl rfl
  have hq : c ≠ '"' := fun h => hquote (by rw [h]; rfl)
  have hs : c ≠ '\\' := fun h => hslash (by rw [h]; rfl)
  by_cases hplain : 0x20 ≤ c.toNat
  · have hpieces : charPieces c = (Utf8.encodeChar c).map .octet := by
      rw [charPieces, if_neg]
      simp only [hasUnitEscape, Bool.and_eq_true, decide_eq_true_eq, not_and]
      omega
    rw [escapeChar, if_neg hq, if_neg hs, if_pos hplain, hpieces, Utf8.encode_cons]
    rw [Utf8.encode, List.flatMap_nil, List.append_nil]
    exact pieces?_octets rest fun b hb => plain_of_mem_encodeChar hplain hquote hslash hb
  by_cases h08 : c.toNat = 0x08
  · exact pieces?_letter (e := 0x62) (b := 0x08) rest h08 rfl rfl rfl
  by_cases h09 : c.toNat = 0x09
  · exact pieces?_letter (e := 0x74) (b := 0x09) rest h09 rfl rfl rfl
  by_cases h0A : c.toNat = 0x0A
  · exact pieces?_letter (e := 0x6E) (b := 0x0A) rest h0A rfl rfl rfl
  by_cases h0C : c.toNat = 0x0C
  · exact pieces?_letter (e := 0x66) (b := 0x0C) rest h0C rfl rfl rfl
  by_cases h0D : c.toNat = 0x0D
  · exact pieces?_letter (e := 0x72) (b := 0x0D) rest h0D rfl rfl rfl
  -- What is left has no escape of its own.
  have hpieces : charPieces c = [.unit c.toNat] := by
    rw [charPieces, if_pos]
    simp only [hasUnitEscape, Bool.and_eq_true, decide_eq_true_eq, Bool.not_eq_true',
      List.contains_eq_mem, List.mem_cons, List.not_mem_nil, or_false, decide_eq_false_iff_not]
    omega
  have hprint : Utf8.encode (escapeChar c) = [0x5C, 0x75, 0x30, 0x30,
      UInt8.ofNat (Hex.digit (c.toNat / 16)).toNat,
      UInt8.ofNat (Hex.digit (c.toNat % 16)).toNat] := by
    rw [escapeChar, if_neg hq, if_neg hs, if_neg hplain, if_neg h08, if_neg h09, if_neg h0A,
      if_neg h0C, if_neg h0D]
    simp only [Utf8.encode, List.flatMap_cons, List.flatMap_nil,
      encodeChar_digit _ (show c.toNat / 16 < 16 by omega),
      encodeChar_digit _ (show c.toNat % 16 < 16 by omega)]
    rfl
  rw [hprint, hpieces]
  exact pieces?_unit rest (unit?_digits c.toNat (by omega))

/-- The pieces of a printed text end at the quote behind it. -/
theorem pieces?_escapeText (cs : List Char) (rest : List UInt8) :
    pieces? (Utf8.encode (cs.flatMap escapeChar) ++ 0x22 :: rest)
      = some (cs.flatMap charPieces, rest) := by
  induction cs with
  | nil => rfl
  | cons c cs ih =>
      rw [List.flatMap_cons, Utf8.encode_append, List.append_assoc, pieces?_escapeChar, ih]
      rfl

end Written

end CredentialGateway.Json
