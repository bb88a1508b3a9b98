/-
Header fields as lists of values.

Of header fields only the values of each name count, and their order.  What is done to
header fields is therefore said by what it does to `values`: putting fields behind
others, dropping names, and rewriting values under their names.

A value that is readable text is ASCII, so it is written with the octets that it was
read from.
-/
import Mathlib
import CredentialGateway.Http.Headers
import CredentialGateway.Proofs.Token.Presented

namespace CredentialGateway.Http

namespace Headers

theorem values_cons (f : String × List UInt8) (h : Headers) (name : String) :
    values (f :: h) name = if f.1 = name then f.2 :: values h name else values h name := by
  by_cases hname : f.1 = name <;> simp [values, hname]

theorem values_append (h more : Headers) (name : String) :
    values (h ++ more) name = values h name ++ values more name := by
  rw [values, values, values, List.filter_append, List.map_append]

theorem has_eq_false_iff {h : Headers} {name : String} :
    has h name = false ↔ values h name = [] := by
  rw [has, List.any_eq_false, values, List.map_eq_nil_iff, List.filter_eq_nil_iff]

/-- The values of header fields that all have one name. -/
theorem values_named (name other : String) (given : List (List UInt8)) :
    values (given.map fun value => (name, value)) other = if other = name then given else [] := by
  rw [values, List.filter_map, List.map_map]
  by_cases hname : other = name
  · simp [Function.comp_def, hname]
  · simp [Function.comp_def, hname, Ne.symm hname]

theorem first?_eq_head? (h : Headers) (name : String) : first? h name = (values h name).head? := by
  simp [first?, values]

/-- A name that is given one value has that value, and the other names keep theirs. -/
theorem values_put (h : Headers) (name : String) (value : List UInt8) (other : String) :
    values (put h name value) other = if other = name then [value] else values h other := by
  unfold put
  rw [values_append]
  by_cases hname : other = name
  · subst hname
    have hgone : values (h.filter fun f => f.1 ≠ other) other = [] := by
      simp [values, List.filter_filter]
    rw [hgone, if_pos rfl]
    simp [values]
  · have hkept : values (h.filter fun f => f.1 ≠ name) other = values h other := by
      unfold values
      rw [List.filter_filter]
      congr 1
      refine List.filter_congr fun f _ => ?_
      by_cases hf : f.1 = other
      · simp [hf, hname]
      · simp [hf]
    have hnone : values [(name, value)] other = [] := by
      simp [values, Ne.symm hname]
    rw [hkept, hnone, List.append_nil, if_neg hname]

/-- The values that are left where some names are dropped and the values of the others are
rewritten under their names. -/
theorem values_filter_map (dropped : String → Bool)
    (rewrite : String → List UInt8 → List UInt8) (h : Headers) (name : String) :
    values ((h.filter fun f => !dropped f.1).map fun f => (f.1, rewrite f.1 f.2)) name =
      if dropped name then [] else (values h name).map (rewrite name) := by
  induction h with
  | nil => simp [values]
  | cons f h ih =>
      obtain ⟨key, value⟩ := f
      by_cases hkey : key = name
      · subst hkey
        cases hdropped : dropped key with
        | true => simpa [values, hdropped] using ih
        | false => simpa [values, hdropped] using ih
      · have hcons : values ((key, value) :: h) name = values h name := by
          simp [values, hkey]
        rw [hcons, ← ih]
        cases hdropped : dropped key with
        | true => simp [hdropped]
        | false => simp [values, hdropped, hkey]

end Headers

/-! ### Values -/

theorem all_isTextOctet_iff {value : List UInt8} :
    value.all isTextOctet = true ↔
      ∀ b ∈ value, b = 0x09 ∨ 0x20 ≤ b.toNat ∧ b.toNat < 0x7F := by
  simp [List.all_eq_true, isTextOctet]

theorem isValue_iff {value : List UInt8} :
    isValue value = true ↔ ∀ b ∈ value, b = 0x09 ∨ 0x20 ≤ b.toNat ∧ b ≠ 0x7F := by
  simp [isValue, List.all_eq_true, isValueOctet]

/-- Readable text is a legal value. -/
theorem isValue_of_text {value : List UInt8} (h : value.all isTextOctet = true) :
    isValue value = true := by
  refine isValue_iff.mpr fun b hb => (all_isTextOctet_iff.mp h b hb).imp_right ?_
  rintro ⟨hlo, hhi⟩
  exact ⟨hlo, by rintro rfl; exact absurd hhi (by decide)⟩

/-- The text of ASCII octets. -/
def asText (value : List UInt8) : String :=
  String.ofList (value.map fun b => Char.ofNat b.toNat)

theorem valueText?_of_text {value : List UInt8} (h : value.all isTextOctet = true) :
    valueText? value = some (asText value) := by
  rw [valueText?, if_pos h, asText]

/-- Readable text is written with the octets that it was read from. -/
theorem encodeString_asText {value : List UInt8} (h : value.all isTextOctet = true) :
    Utf8.encodeString (asText value) = value := by
  rw [asText, Utf8.encodeString, String.toList_ofList]
  refine Token.encode_characters ?_
  intro b hb
  rcases all_isTextOctet_iff.mp h b hb with rfl | ⟨-, hhi⟩
  · decide
  · omega

theorem asText_encodeString {text : String}
    (h : (Utf8.encodeString text).all isTextOctet = true) :
    asText (Utf8.encodeString text) = text := by
  have hback : Utf8.encodeString (asText (Utf8.encodeString text)) = Utf8.encodeString text :=
    encodeString_asText h
  exact String.toList_inj.mp (Utf8.encode_injective hback)

/-- What is read of a value, and from which octets. -/
theorem valueText?_eq_some_iff {value : List UInt8} {text : String} :
    valueText? value = some text ↔
      value = Utf8.encodeString text ∧ value.all isTextOctet = true := by
  by_cases htext : value.all isTextOctet = true
  · rw [valueText?_of_text htext, Option.some_inj]
    constructor
    · rintro rfl
      exact ⟨(encodeString_asText htext).symm, htext⟩
    · rintro ⟨rfl, -⟩
      exact asText_encodeString htext
  · rw [valueText?, if_neg htext]
    exact ⟨fun h => absurd h.symm (Option.some_ne_none text), fun h => absurd h.2 htext⟩

end CredentialGateway.Http
