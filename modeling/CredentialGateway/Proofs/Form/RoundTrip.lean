/-
A query string that is written is read again as what it was written from.

Every octet of a name or value is written as itself, as a plus sign or as an escape, and
read back as the octet it was.  No octet is written with one of the separators, so a query
string is cut where its pairs were put together, and a pair at the sign behind its name.
-/
import Mathlib
import CredentialGateway.Form
import CredentialGateway.Proofs.Text.Cut
import CredentialGateway.Proofs.Text.Utf8

namespace CredentialGateway

/-! ### Escapes -/

namespace Percent

/-- The octet that writes a digit. -/
def digitOctet (n : Nat) : UInt8 :=
  UInt8.ofNat (Hex.upperDigit n).toNat

theorem octetValue?_digitOctet : ∀ n, n < 16 → Hex.octetValue? (digitOctet n) = some n := by
  decide

theorem encodeChar_upperDigit :
    ∀ n, n < 16 → Utf8.encodeChar (Hex.upperDigit n) = [digitOctet n] := by
  decide

theorem encode_escapeOctet (b : UInt8) :
    Utf8.encode (escapeOctet b) =
      [0x25, digitOctet (b.toNat / 16), digitOctet (b.toNat % 16)] := by
  have hb : b.toNat < 256 := b.toNat_lt
  have hhigh := encodeChar_upperDigit (b.toNat / 16) (by omega)
  have hlow := encodeChar_upperDigit (b.toNat % 16) (by omega)
  rw [escapeOctet, Utf8.encode_cons, Utf8.encode_cons, Utf8.encode_cons, hhigh, hlow]
  rfl

/-- **An escape is read as the octet it was written for.** -/
theorem unescapeFrom_escape (b : UInt8) (rest : List UInt8) :
    unescapeFrom 0 (0x25 :: digitOctet (b.toNat / 16) :: digitOctet (b.toNat % 16) :: rest) =
      b :: unescapeFrom 0 rest := by
  have hb : b.toNat < 256 := b.toNat_lt
  have hhigh := octetValue?_digitOctet (b.toNat / 16) (by omega)
  have hlow := octetValue?_digitOctet (b.toNat % 16) (by omega)
  have hoctet : UInt8.ofNat (b.toNat / 16 * 16 + b.toNat % 16) = b := by
    rw [Nat.div_add_mod', UInt8.ofNat_toNat]
  rw [unescapeFrom, if_pos rfl]
  simp only [hhigh, hlow, hoctet, unescapeFrom]

theorem unescapeFrom_of_ne {b : UInt8} (h : b ≠ 0x25) (rest : List UInt8) :
    unescapeFrom 0 (b :: rest) = b :: unescapeFrom 0 rest := by
  rw [unescapeFrom.eq_def]
  exact if_neg h

end Percent

namespace Form

/-- An octet as it is read before the escapes: a plus sign is a space. -/
def spaced (b : UInt8) : UInt8 :=
  if b = 0x2B then 0x20 else b

theorem component_eq (bs : List UInt8) :
    component bs = String.ofList (Utf8.decodeLenient (Percent.unescape (bs.map spaced))) := rfl

/-- The octets that an octet is written with. -/
def written (b : UInt8) : List UInt8 :=
  Utf8.encode (escapeOctet b)

/-- An octet is written as itself, as a plus sign or as an escape. -/
theorem written_cases (b : UInt8) :
    (written b = [b] ∧ b ∉ [0x25, 0x26, 0x2B, 0x3D]) ∨ (b = 0x20 ∧ written b = [0x2B]) ∨
      written b =
        [0x25, Percent.digitOctet (b.toNat / 16), Percent.digitOctet (b.toNat % 16)] := by
  rw [written, escapeOctet]
  by_cases hplain : isPlain b = true
  · left
    have hsmall : b.toNat < 0x80 := by
      simp only [isPlain, Bool.or_eq_true, Bool.and_eq_true, decide_eq_true_eq, beq_iff_eq]
        at hplain
      omega
    have hvalue : (Char.ofNat b.toNat).toNat = b.toNat := by
      rw [Char.toNat_ofNat, if_pos (Or.inl (by omega))]
    have hchar : Utf8.encodeChar (Char.ofNat b.toNat) = [b] := by
      rw [Utf8.encodeChar_ascii (by omega), hvalue, UInt8.ofNat_toNat]
    rw [if_pos hplain, Utf8.encode, List.flatMap_singleton, hchar]
    refine ⟨rfl, fun hmem => ?_⟩
    have hmarks : ∀ c ∈ [(0x25 : UInt8), 0x26, 0x2B, 0x3D], isPlain c = false := by
      simp [isPlain]
    rw [hmarks b hmem] at hplain
    cases hplain
  · rw [if_neg hplain]
    by_cases hspace : b = 0x20
    · exact .inr (.inl ⟨hspace, by rw [if_pos hspace]; rfl⟩)
    · exact .inr (.inr (by rw [if_neg hspace, Percent.encode_escapeOctet]))

/-- What an octet is written with holds none of the separators. -/
theorem separators_not_mem_written (b : UInt8) : 0x26 ∉ written b ∧ 0x3D ∉ written b := by
  have hdigit : ∀ n, n < 16 → Percent.digitOctet n ≠ 0x26 ∧ Percent.digitOctet n ≠ 0x3D := by
    decide
  have hb : b.toNat < 256 := b.toNat_lt
  obtain ⟨hhigh, hhigh'⟩ := hdigit (b.toNat / 16) (by omega)
  obtain ⟨hlow, hlow'⟩ := hdigit (b.toNat % 16) (by omega)
  rcases written_cases b with ⟨h, hb⟩ | ⟨-, h⟩ | h
  · simp only [List.mem_cons, List.not_mem_nil, or_false, not_or] at hb
    rw [h, List.mem_singleton, List.mem_singleton]
    exact ⟨Ne.symm hb.2.1, Ne.symm hb.2.2.2⟩
  · rw [h]
    decide
  · rw [h]
    simp [Ne.symm hhigh, Ne.symm hhigh', Ne.symm hlow, Ne.symm hlow']

/-- **An octet is read back from what it was written with.** -/
theorem unescapeFrom_written (b : UInt8) (rest : List UInt8) :
    Percent.unescapeFrom 0 ((written b).map spaced ++ rest) =
      b :: Percent.unescapeFrom 0 rest := by
  have hdigit : ∀ n, n < 16 → spaced (Percent.digitOctet n) = Percent.digitOctet n := by decide
  have hb : b.toNat < 256 := b.toNat_lt
  rcases written_cases b with ⟨h, hb⟩ | ⟨rfl, h⟩ | h
  · simp only [List.mem_cons, List.not_mem_nil, or_false, not_or] at hb
    rw [h, List.map_singleton, spaced, if_neg hb.2.2.1, List.singleton_append,
      Percent.unescapeFrom_of_ne hb.1]
  · rw [h]
    rfl
  · rw [h, List.map_cons, List.map_cons, List.map_singleton, hdigit _ (by omega),
      hdigit _ (by omega)]
    exact Percent.unescapeFrom_escape b rest

theorem encode_flatMap_escapeOctet (bs : List UInt8) :
    Utf8.encode (bs.flatMap escapeOctet) = bs.flatMap written :=
  List.flatMap_assoc

theorem unescape_flatMap_written (bs : List UInt8) :
    Percent.unescape ((bs.flatMap written).map spaced) = bs := by
  rw [Percent.unescape]
  induction bs with
  | nil => rfl
  | cons b bs ih => rw [List.flatMap_cons, List.map_append, unescapeFrom_written, ih]

/-- **A name or value is read back.** -/
theorem component_escape (s : String) : component (Utf8.encode (escape s)) = s := by
  have hchars : Utf8.decodeLenient (Utf8.encode s.toList) = s.toList := by
    rw [Utf8.decodeLenient, Utf8.decode_encode, List.map_map]
    exact List.map_id _
  rw [component_eq, escape, encode_flatMap_escapeOctet, unescape_flatMap_written,
    Utf8.encodeString, hchars, String.ofList_toList]

theorem separators_not_mem_escape (s : String) :
    0x26 ∉ Utf8.encode (escape s) ∧ 0x3D ∉ Utf8.encode (escape s) := by
  rw [escape, encode_flatMap_escapeOctet]
  constructor
  · rintro hmem
    obtain ⟨b, -, hb⟩ := List.mem_flatMap.mp hmem
    exact (separators_not_mem_written b).1 hb
  · rintro hmem
    obtain ⟨b, -, hb⟩ := List.mem_flatMap.mp hmem
    exact (separators_not_mem_written b).2 hb

/-! ### Pairs -/

theorem encode_renderPair (p : String × String) :
    Utf8.encode (renderPair p) =
      Utf8.encode (escape p.1) ++ 0x3D :: Utf8.encode (escape p.2) := by
  rw [renderPair, Utf8.encode_append, Utf8.encode_cons]
  rfl

theorem pair_renderPair (p : String × String) : pair (Utf8.encode (renderPair p)) = p := by
  have hpass : ∀ b ∈ Utf8.encode (escape p.1), (b != 0x3D) = true := by
    intro b hb
    rw [bne_iff_ne]
    rintro rfl
    exact (separators_not_mem_escape p.1).2 hb
  have hname : (Utf8.encode (renderPair p)).takeWhile (fun b => b != 0x3D) =
      Utf8.encode (escape p.1) := by
    rw [encode_renderPair, List.takeWhile_append_of_pos hpass,
      List.takeWhile_cons_of_neg (by simp), List.append_nil]
  rw [pair, hname, encode_renderPair, List.drop_length_add_append, List.drop_one,
    List.tail_cons, component_escape, component_escape]

theorem separator_not_mem_renderPair (p : String × String) :
    0x26 ∉ Utf8.encode (renderPair p) := by
  rw [encode_renderPair, List.mem_append, List.mem_cons, not_or, not_or]
  exact ⟨(separators_not_mem_escape p.1).1, by decide, (separators_not_mem_escape p.2).1⟩

theorem pieces_render (p : String × String) (ps : List (String × String)) :
    Text.pieces 0x26 (Utf8.encode (render (p :: ps))) =
      (p :: ps).map fun q => Utf8.encode (renderPair q) := by
  induction ps generalizing p with
  | nil => exact Text.pieces_of_not_mem (separator_not_mem_renderPair p)
  | cons q ps ih =>
      have hmark : Utf8.encodeChar '&' = [0x26] := by decide
      rw [render, Utf8.encode_append, Utf8.encode_cons, hmark, List.singleton_append,
        Text.pieces_append, Text.pieces_of_not_mem (separator_not_mem_renderPair p), ih]
      rfl

/-- **A query string that is written is read as the pairs it was written from.** -/
theorem parse_render (ps : List (String × String)) : parse (String.ofList (render ps)) = ps := by
  cases ps with
  | nil => rfl
  | cons p ps =>
      have hfull : ∀ q : String × String, (Utf8.encode (renderPair q)).isEmpty = false := by
        intro q
        rw [encode_renderPair]
        simp
      rw [parse, Utf8.encodeString, String.toList_ofList, pieces_render, List.filter_eq_self.mpr,
        List.map_map]
      · conv_rhs => rw [← List.map_id (p :: ps)]
        exact List.map_congr_left fun q _ => pair_renderPair q
      · intro piece hpiece
        obtain ⟨q, -, rfl⟩ := List.mem_map.mp hpiece
        rw [hfull q]
        rfl

end Form

end CredentialGateway
