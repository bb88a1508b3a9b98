/-
The same token in other wrappings.

White space around a text and a scheme in front of it say nothing about the token.  What
decides is the trimmed text: with the scheme in front, the white space behind the scheme is
trimmed as the white space around the text is.  One case stands apart.  When the text is
all white space, the space of the scheme goes with it, and the name of the scheme alone is
taken for the token; it has no dots, so it is refused just as an empty text is.

The scheme is looked for in the first octets of a text, seven of them, and octets can fall
inside a character.  The seven octets of the scheme are seven characters, so whenever they
are there, the text is cut between two characters (`isScheme_iff_octets`).
-/
import Mathlib
import CredentialGateway.Proofs.Token.Verify

namespace CredentialGateway

open Text

theorem Text.lt_of_lowerAscii_lt {c : Char} (h : (lowerAscii c).toNat < 0x80) : c.toNat < 0x80 := by
  by_cases hupper : 'A' ≤ c ∧ c ≤ 'Z'
  · have hhi : c.toNat ≤ 90 := hupper.2
    omega
  · rwa [lowerAscii, if_neg hupper] at h

theorem Utf8.length_encode_ascii {text : List Char} (h : ∀ c ∈ text, c.toNat < 0x80) :
    (Utf8.encode text).length = text.length := by
  induction text with
  | nil => rfl
  | cons c rest ih =>
      obtain ⟨hc, hrest⟩ := List.forall_mem_cons.mp h
      rw [Utf8.encode_cons, Utf8.encodeChar_ascii hc, List.length_append, ih hrest,
        List.length_singleton, List.length_cons, Nat.add_comm]

namespace Bearer

/-! ### The name of the scheme -/

variable {b name w₁ w₃ : List Char}

/-- The name of the scheme without a space is not the scheme. -/
theorem IsName.isScheme_eq_false (h : IsName name) : isScheme name = false := by
  rw [Bool.eq_false_iff]
  intro hscheme
  have hmap : (name.take scheme.length).map lowerAscii = scheme := of_decide_eq_true hscheme
  rw [List.map_take, h] at hmap
  exact absurd hmap (by decide)

/-- The scheme in front of nothing but white space loses its space. -/
theorem exists_strip_of_blank (hb : b.map lowerAscii = scheme) (h₁ : IsBlank w₁)
    (h₃ : IsBlank w₃) : ∃ name, IsName name ∧ strip (trimBlank (w₁ ++ (b ++ w₃))) = name := by
  obtain ⟨name, space, rfl, hname, hspace⟩ := exists_name hb
  have htrim : trimBlank (w₁ ++ ((name ++ [space]) ++ w₃)) = name := by
    rw [List.append_assoc, List.singleton_append]
    exact trim_append h₁ (List.forall_mem_cons.mpr ⟨hspace, h₃⟩) hname.ne_nil
      (fun c hc => hname.not_isBlank c (List.mem_of_head? hc))
      (fun c hc => hname.not_isBlank c (List.mem_of_getLast? hc))
  refine ⟨name, hname, ?_⟩
  rw [htrim, strip, hname.isScheme_eq_false, if_neg Bool.false_ne_true]

/-! ### The scheme in octets -/

/-- A text starts with the scheme if it has a cut between characters behind as many octets as the
scheme has, and the scheme in front of the cut. -/
theorem isScheme_iff_octets {value : List Char} :
    isScheme value = true ↔ ∃ b rest, value = b ++ rest ∧
      (Utf8.encode b).length = scheme.length ∧ b.map lowerAscii = scheme := by
  constructor
  · intro h
    have hb : (value.take scheme.length).map lowerAscii = scheme := of_decide_eq_true h
    refine ⟨_, _, (List.take_append_drop scheme.length value).symm, ?_, hb⟩
    have hascii : ∀ c ∈ value.take scheme.length, c.toNat < 0x80 := by
      have hletters : ∀ l ∈ scheme, l.toNat < 0x80 := by simp [scheme]
      intro c hc
      exact lt_of_lowerAscii_lt (hletters _ (hb ▸ List.mem_map_of_mem hc))
    rw [Utf8.length_encode_ascii hascii, ← List.length_map (f := lowerAscii), hb]
  · rintro ⟨b, rest, rfl, -, hb⟩
    have hlength : b.length = scheme.length := by
      rw [← hb, List.length_map]
    rw [isScheme, ← hlength, List.take_left, hb]
    decide

/-- Stripping changes a text that starts with the scheme, and no other. -/
theorem strip_ne_iff {value : List Char} : strip value ≠ value ↔ isScheme value = true := by
  constructor
  · intro h
    by_contra hscheme
    rw [strip, if_neg hscheme] at h
    exact h rfl
  · intro h heq
    obtain ⟨b, rest, rfl, -, hb⟩ := isScheme_iff_octets.mp h
    have hlength := congrArg List.length heq
    have hshorter : (trimStart isBlank rest).length ≤ rest.length :=
      (List.dropWhile_suffix isBlank).length_le
    have hpos : 0 < b.length := by
      rw [← List.length_map (f := lowerAscii), hb]
      decide
    rw [strip_append hb, List.length_append] at hlength
    omega

end Bearer

namespace Token.Authority

variable {mac : Mac} {a : Authority} {now : UInt64}

/-- A text without a dot is no token. -/
theorem verifyToken_of_no_dot {token : List UInt8} (h : dot ∉ token) :
    a.verifyToken mac now token = .error (.malformed .parts) := by
  have hparts : parts? token = none := by
    have hcut : splitLast? dot token = none := by
      rw [splitLast?, Option.map_eq_none_iff, splitFirst?_eq_none_iff, List.mem_reverse]
      exact h
    rw [parts?, hcut]
    rfl
  rw [verifyToken, hparts]
  rfl

theorem dot_not_mem_encode_name {name : List Char} (h : Bearer.IsName name) :
    dot ∉ Utf8.encode name := by
  intro hmem
  have hdot : Char.ofNat dot.toNat ∈ name := Utf8.mem_of_mem_encode (by decide) hmem
  have hlower : lowerAscii (Char.ofNat dot.toNat) ∈ name.map lowerAscii := List.mem_map_of_mem hdot
  rw [h] at hlower
  exact absurd hlower (by decide)

/-- A text is judged by what is left when it is trimmed, if that does not start with the scheme. -/
theorem verify_eq_verifyToken {t : String} (h : Bearer.isScheme (trimBlank t.toList) = false) :
    a.verify mac now t = a.verifyToken mac now (Utf8.encode (trimBlank t.toList)) := by
  rw [verify, presentedToken, Bearer.strip, h, if_neg Bool.false_ne_true]

/-- **The presentation of a token does not matter.**  A text that does not start with the scheme
itself, when trimmed, is judged alike by itself, in white space, and behind the scheme in any case
and white space.  And a text starts with the scheme just if its first octets, as many as the scheme
has, end with a character and are the scheme in some case; then what is stripped away are these
octets and the white space behind them, and nothing is stripped away from any other text. -/
theorem presentation_does_not_matter (mac : Mac) (a : Authority) (now : UInt64) :
    (∀ t w₁ w₂ w₃ b : String, Bearer.isScheme (trimBlank t.toList) = false →
      IsBlank w₁.toList → IsBlank w₂.toList → IsBlank w₃.toList →
      b.toList.map lowerAscii = Bearer.scheme →
      a.verify mac now (w₁ ++ b ++ w₂ ++ t ++ w₃) = a.verify mac now t ∧
      a.verify mac now (w₁ ++ t ++ w₃) = a.verify mac now t) ∧
    ∀ value : List Char,
      (Bearer.isScheme value = true ↔ ∃ b rest, value = b ++ rest ∧
        (Utf8.encode b).length = Bearer.scheme.length ∧ b.map lowerAscii = Bearer.scheme) ∧
      (∀ b rest, value = b ++ rest → b.map lowerAscii = Bearer.scheme →
        Bearer.strip value = trimStart isBlank rest) ∧
      (Bearer.strip value ≠ value ↔ Bearer.isScheme value = true) := by
  constructor
  · intro t w₁ w₂ w₃ b hplain h₁ h₂ h₃ hb
    have haround : trimBlank (w₁ ++ t ++ w₃).toList = trimBlank t.toList := by
      rw [String.toList_append, String.toList_append, List.append_assoc]
      exact trimBlank_around h₁ h₃
    rw [verify_eq_verifyToken hplain]
    refine ⟨?_, by rw [verify_eq_verifyToken (haround ▸ hplain), haround]⟩
    have hshape : (w₁ ++ b ++ w₂ ++ t ++ w₃).toList =
        w₁.toList ++ ((b.toList ++ (w₂.toList ++ t.toList)) ++ w₃.toList) := by
      simp only [String.toList_append, List.append_assoc]
    rw [verify, presentedToken, hshape]
    by_cases hnil : trimBlank t.toList = []
    · -- The trailing trim takes the space of the scheme, and neither text is a token.
      have hblank := h₂.append ((trimBlank_eq_nil_iff.mp hnil).append h₃)
      obtain ⟨name, hname, hstrip⟩ := Bearer.exists_strip_of_blank hb h₁ hblank
      have hleft : w₁.toList ++ ((b.toList ++ (w₂.toList ++ t.toList)) ++ w₃.toList) =
          w₁.toList ++ (b.toList ++ (w₂.toList ++ (t.toList ++ w₃.toList))) := by
        simp only [List.append_assoc]
      rw [hleft, hstrip, hnil, verifyToken_of_no_dot (dot_not_mem_encode_name hname)]
      exact (verifyToken_of_no_dot (List.not_mem_nil)).symm
    · rw [Bearer.strip_behind hb h₁ h₂ h₃ hnil]
  · intro value
    refine ⟨Bearer.isScheme_iff_octets, ?_, Bearer.strip_ne_iff⟩
    rintro b rest rfl hb
    exact Bearer.strip_append hb rest

/-- A sealed token does not start with the scheme. -/
theorem isScheme_characters_compact (a : Authority) (algorithm : MacAlgorithm) (c : Claims) :
    Bearer.isScheme (trimBlank
      (String.ofList (characters (compact mac a.secret algorithm a.keyId c))).toList) = false := by
  have hplain : ∀ ch ∈ characters (compact mac a.secret algorithm a.keyId c),
      isBlank ch = false := by
    intro ch hch
    obtain ⟨b, hb, rfl⟩ := List.mem_map.mp hch
    rw [compact_eq_sealed] at hb
    exact (isTokenOctet_of_mem_sealed b hb).plain.2
  rw [String.toList_ofList, trimBlank_plain hplain]
  exact Bearer.isScheme_plain hplain

/-- A live token in a wrapping of a tab, a scheme in mixed case, a space that does not break and a
line end, and in white space alone; a text that is no token in the first of these wrappings; and
white space alone in it. -/
theorem wrapped_text_is_judged_alike :
    let a : Authority := ⟨[0x73, 0x33], "main", 4, 50⟩
    let c : Claims := ⟨"7-ada", 60, 60, 90, "ada", none, some "ops", 4, 60, "main", "n1", scope⟩
    let token := String.ofList (characters (compact hmac a.secret .hs384 a.keyId c))
    a.verify hmac 75 ("\t" ++ "bEaReR " ++ "\u00a0" ++ token ++ "\n") = .ok c ∧
      a.verify hmac 75 ("\t" ++ token ++ "\n") = .ok c ∧
      a.verify hmac 75 ("\t" ++ "bEaReR " ++ "\u00a0" ++ "x.y z" ++ "\n") =
        a.verify hmac 75 "x.y z" ∧
      a.verify hmac 75 ("\t" ++ "bEaReR " ++ "\u00a0" ++ " " ++ "\n") = a.verify hmac 75 " " := by
  intro a c token
  have hblank : ∀ w ∈ ["\t", "\u00a0", "\n"], IsBlank w.toList := by
    simp [IsBlank, isBlank]
  have hlive : a.Live 75 c := ⟨by decide, by decide, rfl, by decide, rfl⟩
  have haccepted : a.verify hmac 75 token = .ok c :=
    verify_of_presents_compact hlive (presents_characters _)
  have h : ∀ t, Bearer.isScheme (trimBlank t.toList) = false →
      a.verify hmac 75 ("\t" ++ "bEaReR " ++ "\u00a0" ++ t ++ "\n") = a.verify hmac 75 t ∧
        a.verify hmac 75 ("\t" ++ t ++ "\n") = a.verify hmac 75 t := fun t hplain =>
    (presentation_does_not_matter hmac a 75).1 t "\t" "\u00a0" "\n" "bEaReR " hplain
      (hblank _ (by simp)) (hblank _ (by simp)) (hblank _ (by simp)) (by decide)
  obtain ⟨hwrapped, hspaced⟩ := h token (isScheme_characters_compact a .hs384 c)
  exact ⟨hwrapped.trans haccepted, hspaced.trans haccepted, (h "x.y z" (by decide)).1,
    (h " " (by decide)).1⟩

end Token.Authority

end CredentialGateway
