/-
How a token may be presented.

A credential arrives with white space around it and possibly with the bearer scheme in
front.  What is trimmed and stripped away is said here as a shape of the text: a lead,
the token, and white space.  A token holds no white space and the scheme ends in a
space, so a token is never itself taken for the scheme, and at most one scheme goes.
-/
import Mathlib
import CredentialGateway.Proofs.Text.Base64
import CredentialGateway.Proofs.Text.Cut
import CredentialGateway.Proofs.Text.Utf8
import CredentialGateway.Token.Authority

namespace CredentialGateway

open Text

/-! ### White space -/

namespace Text

/-- Whether white space is all there is of a text. -/
def IsBlank (text : List Char) : Prop :=
  ∀ c ∈ text, isBlank c = true

variable {t w₁ w₃ : List Char}

theorem IsBlank.append (h₁ : IsBlank w₁) (h₃ : IsBlank w₃) : IsBlank (w₁ ++ w₃) :=
  fun c hc => (List.mem_append.mp hc).elim (h₁ c) (h₃ c)

theorem trimBlank_eq_nil_iff : trimBlank t = [] ↔ IsBlank t := by
  constructor
  · intro h
    obtain ⟨lead, trail, hlead, htrail, htext⟩ := trim_split isBlank t
    rw [show trim isBlank t = [] from h, List.nil_append] at htext
    rw [htext]
    exact IsBlank.append hlead htrail
  · intro h
    rw [trimBlank, trim, show trimStart isBlank t = [] from List.dropWhile_eq_nil_iff.mpr h]
    rfl

/-- White space around a text is trimmed off, and nothing else. -/
theorem trimBlank_around (h₁ : IsBlank w₁) (h₃ : IsBlank w₃) :
    trimBlank (w₁ ++ (t ++ w₃)) = trimBlank t := by
  by_cases hnil : trimBlank t = []
  · rw [hnil, trimBlank_eq_nil_iff]
    exact h₁.append ((trimBlank_eq_nil_iff.mp hnil).append h₃)
  · obtain ⟨lead, trail, hlead, htrail, htext⟩ := trim_split isBlank t
    have hshape : w₁ ++ (t ++ w₃) = (w₁ ++ lead) ++ (trimBlank t ++ (trail ++ w₃)) := by
      conv_lhs => rw [htext]
      simp only [List.append_assoc, trimBlank]
    rw [hshape]
    exact trim_append (IsBlank.append h₁ hlead) (IsBlank.append htrail h₃) hnil
      (fun _ hc => head?_trim hc) (fun _ hc => getLast?_trim hc)

/-- A text without white space is trimmed to itself. -/
theorem trimBlank_plain (h : ∀ c ∈ t, isBlank c = false) : trimBlank t = t := by
  by_cases hnil : t = []
  · rw [hnil]
    rfl
  · have htrim := trim_append (List.forall_mem_nil _) (List.forall_mem_nil _) hnil
      (fun c hc => h c (List.mem_of_head? hc)) (fun c hc => h c (List.mem_of_getLast? hc))
    rwa [List.nil_append, List.append_nil] at htrim

/-- Case does not matter to white space. -/
theorem isBlank_lowerAscii (c : Char) : isBlank (lowerAscii c) = isBlank c := by
  by_cases hupper : 'A' ≤ c ∧ c ≤ 'Z'
  · have hlo : 65 ≤ c.toNat := hupper.1
    have hhi : c.toNat ≤ 90 := hupper.2
    have hvalue : (lowerAscii c).toNat = c.toNat + 32 := by
      rw [lowerAscii, if_pos hupper, Char.toNat_ofNat, if_pos (Or.inl (by omega))]
    have hlower : isBlank (lowerAscii c) = false := by
      simp only [isBlank, hvalue, Bool.or_eq_false_iff, Bool.and_eq_false_iff, beq_eq_false_iff_ne,
        decide_eq_false_iff_not]
      omega
    have hletter : isBlank c = false := by
      simp only [isBlank, Bool.or_eq_false_iff, Bool.and_eq_false_iff, beq_eq_false_iff_ne,
        decide_eq_false_iff_not]
      omega
    rw [hlower, hletter]
  · rw [lowerAscii, if_neg hupper]

end Text

/-! ### The scheme -/

namespace Bearer

/-- The name of the scheme, without the space behind it. -/
def IsName (name : List Char) : Prop :=
  name.map lowerAscii = ['b', 'e', 'a', 'r', 'e', 'r']

variable {b name t w₁ w₂ w₃ : List Char}

theorem exists_name (hb : b.map lowerAscii = scheme) :
    ∃ name space, b = name ++ [space] ∧ IsName name ∧ isBlank space = true := by
  obtain ⟨name, last, hsplit, hname, hlast⟩ :=
    List.map_eq_append_iff.mp
      (hb.trans (show scheme = ['b', 'e', 'a', 'r', 'e', 'r'] ++ [' '] from rfl))
  obtain ⟨space, rfl, hspace⟩ := List.map_eq_singleton_iff.mp hlast
  refine ⟨name, space, hsplit, hname, ?_⟩
  rw [← isBlank_lowerAscii, hspace]
  decide

theorem IsName.not_isBlank (h : IsName name) : ∀ c ∈ name, isBlank c = false := by
  intro c hc
  have hletters : ∀ l ∈ ['b', 'e', 'a', 'r', 'e', 'r'], isBlank l = false := by simp [isBlank]
  rw [← isBlank_lowerAscii]
  exact hletters _ (h ▸ List.mem_map_of_mem hc)

theorem IsName.ne_nil (h : IsName name) : name ≠ [] := by
  rintro rfl
  cases h

/-- A text that starts with the scheme is stripped of it and of the white space behind it. -/
theorem strip_append (hb : b.map lowerAscii = scheme) (rest : List Char) :
    strip (b ++ rest) = trimStart isBlank rest := by
  have hlength : b.length = scheme.length := by
    rw [← hb, List.length_map]
  have hscheme : isScheme (b ++ rest) = true := by
    rw [isScheme, ← hlength, List.take_left, hb]
    decide
  rw [strip, if_pos hscheme, ← hlength, List.drop_left]

/-- A text behind the scheme comes out trimmed, if there is anything but white space in it. -/
theorem strip_behind (hb : b.map lowerAscii = scheme) (h₁ : IsBlank w₁) (h₂ : IsBlank w₂)
    (h₃ : IsBlank w₃) (ht : trimBlank t ≠ []) :
    strip (trimBlank (w₁ ++ ((b ++ (w₂ ++ t)) ++ w₃))) = trimBlank t := by
  obtain ⟨lead, trail, hlead, htrail, htext⟩ := trim_split isBlank t
  obtain ⟨name, space, rfl, hname, -⟩ := exists_name hb
  have hshape : w₁ ++ (((name ++ [space]) ++ (w₂ ++ t)) ++ w₃) =
      w₁ ++ (((name ++ [space]) ++ ((w₂ ++ lead) ++ trimBlank t)) ++ (trail ++ w₃)) := by
    conv_lhs => rw [htext]
    simp only [List.append_assoc, trimBlank]
  have htrim : trimBlank (w₁ ++ (((name ++ [space]) ++ (w₂ ++ t)) ++ w₃)) =
      (name ++ [space]) ++ ((w₂ ++ lead) ++ trimBlank t) := by
    rw [hshape]
    refine trim_append h₁ (IsBlank.append htrail h₃) (by simp) ?_ ?_
    · intro c hc
      rw [List.append_assoc, List.head?_append_of_ne_nil _ hname.ne_nil] at hc
      exact hname.not_isBlank c (List.mem_of_head? hc)
    · intro c hc
      rw [← List.append_assoc, List.getLast?_append_of_ne_nil _ ht] at hc
      exact getLast?_trim hc
  obtain ⟨c, rest, hcore⟩ := List.exists_cons_of_ne_nil ht
  have hfirst : (trimBlank t).head? = some c := by
    rw [hcore]
    rfl
  rw [htrim, strip_append hb, hcore]
  exact trimStart_append rest (IsBlank.append h₂ hlead) (head?_trim hfirst)

/-- The scheme holds a space. -/
theorem exists_blank_of_isScheme {value : List Char} (h : isScheme value = true) :
    ∃ c ∈ value, isBlank c = true := by
  have hmap : (value.take scheme.length).map lowerAscii = scheme := of_decide_eq_true h
  have hspace : ' ' ∈ (value.take scheme.length).map lowerAscii := by
    rw [hmap]
    decide
  obtain ⟨c, hc, hlower⟩ := List.mem_map.mp hspace
  refine ⟨c, List.mem_of_mem_take hc, ?_⟩
  rw [← isBlank_lowerAscii, hlower]
  decide

/-- What may stand in front of a credential: white space, and the scheme in any case with
white space behind it. -/
inductive IsLead : List Char → Prop where
  | bare {space : List Char} (hspace : ∀ c ∈ space, isBlank c = true) : IsLead space
  | schemed {space name gap : List Char} (hspace : ∀ c ∈ space, isBlank c = true)
      (hname : name.map lowerAscii = scheme) (hgap : ∀ c ∈ gap, isBlank c = true) :
      IsLead (space ++ (name ++ gap))

/-- What trimming and stripping leave of a text stands between a lead and white space. -/
theorem strip_trimBlank_split (text : List Char) :
    ∃ lead trail, IsLead lead ∧ (∀ c ∈ trail, isBlank c = true) ∧
      text = lead ++ (strip (trimBlank text) ++ trail) := by
  obtain ⟨lead, trail, hlead, htrail, htext⟩ := trim_split isBlank text
  rw [strip]
  by_cases hscheme : isScheme (trimBlank text) = true
  · rw [if_pos hscheme]
    obtain ⟨gap, hgap, hrest⟩ := trimStart_split isBlank ((trimBlank text).drop scheme.length)
    refine ⟨_, trail, IsLead.schemed hlead (of_decide_eq_true hscheme) hgap, htrail, ?_⟩
    calc text = lead ++ (trimBlank text ++ trail) := htext
      _ = lead ++ (((trimBlank text).take scheme.length ++
            (trimBlank text).drop scheme.length) ++ trail) := by rw [List.take_append_drop]
      _ = lead ++ (((trimBlank text).take scheme.length ++ (gap ++
            trimStart isBlank ((trimBlank text).drop scheme.length))) ++ trail) := by
          rw [← hrest]
      _ = _ := by simp only [List.append_assoc]
  · rw [if_neg hscheme]
    exact ⟨lead, trail, IsLead.bare hlead, htrail, htext⟩

theorem isScheme_plain {value : List Char} (hplain : ∀ c ∈ value, isBlank c = false) :
    isScheme value = false := by
  rw [Bool.eq_false_iff]
  intro h
  obtain ⟨c, hc, hblank⟩ := exists_blank_of_isScheme h
  rw [hplain c hc] at hblank
  cases hblank

/-- **Trimming and stripping leave a text without white space exactly where it stands between
a lead and white space.** -/
theorem strip_trimBlank_eq_iff {text value : List Char} (hne : value ≠ [])
    (hplain : ∀ c ∈ value, isBlank c = false) :
    strip (trimBlank text) = value ↔
      ∃ lead trail, IsLead lead ∧ (∀ c ∈ trail, isBlank c = true) ∧
        text = lead ++ (value ++ trail) := by
  constructor
  · rintro rfl
    exact strip_trimBlank_split text
  · rintro ⟨lead, trail, hlead, htrail, rfl⟩
    have hvalue : trimBlank value = value := trimBlank_plain hplain
    cases hlead with
    | bare hspace =>
        rw [trimBlank_around hspace htrail, hvalue, strip, isScheme_plain hplain,
          if_neg Bool.false_ne_true]
    | @schemed space name gap hspace hname hgap =>
        have hshape : space ++ (name ++ gap) ++ (value ++ trail)
            = space ++ ((name ++ (gap ++ value)) ++ trail) := by
          simp only [List.append_assoc]
        rw [hshape, strip_behind hname hspace hgap htrail (by rw [hvalue]; exact hne), hvalue]

end Bearer

/-! ### The token -/

namespace Token

/-- The characters of ASCII octets. -/
def characters (token : List UInt8) : List Char :=
  token.map fun b => Char.ofNat b.toNat

/-- An octet that a token may hold: a symbol or the dot. -/
def IsTokenOctet (b : UInt8) : Prop :=
  b = dot ∨ ∃ n < 64, b = Base64.urlSafe.symbol n

/-- A text presents a token if the token stands in it between a lead and white space. -/
def Presents (presented : String) (token : List UInt8) : Prop :=
  ∃ lead trail, Bearer.IsLead lead ∧ (∀ c ∈ trail, isBlank c = true) ∧
    presented.toList = lead ++ (characters token ++ trail)

theorem plain_symbol : ∀ n < 64, (Base64.urlSafe.symbol n).toNat < 0x80 ∧
    isBlank (Char.ofNat (Base64.urlSafe.symbol n).toNat) = false ∧
    Base64.urlSafe.symbol n ≠ dot := by
  decide

theorem IsTokenOctet.plain {b : UInt8} (h : IsTokenOctet b) :
    b.toNat < 0x80 ∧ isBlank (Char.ofNat b.toNat) = false := by
  rcases h with rfl | ⟨n, hn, rfl⟩
  · decide
  · exact ⟨(plain_symbol n hn).1, (plain_symbol n hn).2.1⟩

theorem symbol_of_mem_encode {b : UInt8} {bs : List UInt8} (h : b ∈ Base64.urlSafe.encode bs) :
    ∃ n < 64, b = Base64.urlSafe.symbol n := by
  rcases Base64.Variant.mem_encode h with ⟨hpadded, -⟩ | hsymbol
  · cases hpadded
  · exact hsymbol

theorem dot_not_mem_encode (bs : List UInt8) : dot ∉ Base64.urlSafe.encode bs := by
  intro h
  obtain ⟨n, hn, hdot⟩ := symbol_of_mem_encode h
  exact (plain_symbol n hn).2.2 hdot.symm

theorem encode_characters {token : List UInt8} (h : ∀ b ∈ token, b.toNat < 0x80) :
    Utf8.encode (characters token) = token := by
  induction token with
  | nil => rfl
  | cons b token ih =>
      have hb := h b List.mem_cons_self
      have hvalue : (Char.ofNat b.toNat).toNat = b.toNat := by
        rw [Char.toNat_ofNat, if_pos (Or.inl (by omega))]
      rw [characters, List.map_cons, Utf8.encode_cons,
        Utf8.encodeChar_ascii (by rw [hvalue]; exact hb), hvalue, UInt8.ofNat_toNat]
      exact congrArg (b :: ·) (ih fun c hc => h c (List.mem_cons_of_mem _ hc))

/-- **The token in a presented text is the one that the text presents.** -/
theorem presentedToken_eq_iff {presented : String} {token : List UInt8} (hne : token ≠ [])
    (htoken : ∀ b ∈ token, IsTokenOctet b) :
    Authority.presentedToken presented = token ↔ Presents presented token := by
  have hascii : Utf8.encode (characters token) = token :=
    encode_characters fun b hb => (htoken b hb).plain.1
  have hplain : ∀ c ∈ characters token, isBlank c = false := by
    intro c hc
    obtain ⟨b, hb, rfl⟩ := List.mem_map.mp hc
    exact (htoken b hb).plain.2
  have hvalue : characters token ≠ [] := fun h => hne (List.map_eq_nil_iff.mp h)
  rw [Presents, ← Bearer.strip_trimBlank_eq_iff hvalue hplain, Authority.presentedToken]
  constructor
  · intro h
    exact Utf8.encode_injective (by rw [h, hascii])
  · intro h
    rw [h, hascii]

theorem presents_characters (token : List UInt8) :
    Presents (String.ofList (characters token)) token :=
  ⟨[], [], Bearer.IsLead.bare (List.forall_mem_nil _), List.forall_mem_nil _, by
    rw [String.toList_ofList, List.nil_append, List.append_nil]⟩

end Token

end CredentialGateway
