/-
One signature for what is signed, and no token within a token.

The signature of a token is decided by what stands before the last dot: the header there
names the code, and strict Base64 has one text for its value.  `signature?` computes that
text, and whatever is accepted ends in it.

A text that is presented may have white space and the scheme in front.  Neither holds a
dot, so of three parts the dots are where the token has them, and what stands before the
last dot presents the signed text by itself (`presents_signed`).  A token that is cut short
and still has two dots has the same signed text, so its shorter signature is the wrong one.
-/
import Mathlib
import CredentialGateway.Proofs.Token.Verify

namespace CredentialGateway.Token

open Text

/-- A text without white space. -/
def Unspaced (text : List Char) : Prop :=
  ∀ c ∈ text, isBlank c = false

/-! ### Dots -/

theorem characters_append (front back : List UInt8) :
    characters (front ++ back) = characters front ++ characters back :=
  List.map_append

theorem characters_dot (front back : List UInt8) :
    characters (front ++ dot :: back) = characters front ++ '.' :: characters back := by
  rw [characters_append]
  rfl

theorem dot_not_mem_characters_encode (bs : List UInt8) :
    '.' ∉ characters (Base64.urlSafe.encode bs) := by
  have hsymbol : ∀ n < 64, Char.ofNat (Base64.urlSafe.symbol n).toNat ≠ '.' := by decide
  intro h
  obtain ⟨b, hb, hdot⟩ := List.mem_map.mp h
  obtain ⟨n, hn, rfl⟩ := symbol_of_mem_encode hb
  exact hsymbol n hn hdot

theorem dot_not_mem_blanks {space : List Char} (h : ∀ c ∈ space, isBlank c = true) :
    '.' ∉ space := by
  intro hmem
  exact absurd (h '.' hmem) (by decide)

theorem dot_not_mem_lead {lead : List Char} (h : Bearer.IsLead lead) : '.' ∉ lead := by
  cases h with
  | bare hspace => exact dot_not_mem_blanks hspace
  | @schemed space name gap hspace hname hgap =>
      have hnot : '.' ∉ name := by
        intro hmem
        have hlower : '.' ∈ name.map lowerAscii := List.mem_map.mpr ⟨'.', hmem, by decide⟩
        rw [hname] at hlower
        exact absurd hlower (by decide)
      simp only [List.mem_append, not_or]
      exact ⟨dot_not_mem_blanks hspace, hnot, dot_not_mem_blanks hgap⟩

namespace Authority

/-- The text that the first two parts of a token sign. -/
def signedPart (header claims : List UInt8) : List UInt8 :=
  Base64.urlSafe.encode header ++ dot :: Base64.urlSafe.encode claims

theorem count_dot_signedPart (header claims : List UInt8) :
    (characters (signedPart header claims)).count '.' = 1 := by
  rw [signedPart, characters_dot, List.count_append, List.count_cons_self,
    List.count_eq_zero.mpr (dot_not_mem_characters_encode header),
    List.count_eq_zero.mpr (dot_not_mem_characters_encode claims)]

theorem isTokenOctet_of_mem_signedPart {header claims : List UInt8} :
    ∀ b ∈ signedPart header claims, IsTokenOctet b := by
  intro b hb
  rcases List.mem_append.mp hb with hb | hb
  · exact Or.inr (symbol_of_mem_encode hb)
  · rcases List.mem_cons.mp hb with rfl | hb
    · exact Or.inl rfl
    · exact Or.inr (symbol_of_mem_encode hb)

theorem signedPart_ne_nil (header claims : List UInt8) : signedPart header claims ≠ [] := by
  simp [signedPart]

variable {m s : List Char} {header claims code : List UInt8}

/-- A text in which a token is presented has the two dots of the token. -/
theorem count_dot_of_presents {text : List Char} (hcode : '.' ∉ characters code)
    (h : Presents (String.ofList text) (signedPart header claims ++ dot :: code)) :
    text.count '.' = 2 := by
  obtain ⟨lead, trail, hlead, htrail, htext⟩ := h
  rw [String.toList_ofList, characters_dot] at htext
  simp only [htext, List.count_append, List.count_cons_self, count_dot_signedPart,
    List.count_eq_zero.mpr (dot_not_mem_lead hlead), List.count_eq_zero.mpr hcode,
    List.count_eq_zero.mpr (dot_not_mem_blanks htrail)]

/-- A text in which a token is presented, cut at its second dot. -/
theorem presents_signed (hdot : '.' ∈ m) (hs : Unspaced s) (hcode : '.' ∉ characters code)
    (h : Presents (String.ofList (m ++ '.' :: s)) (signedPart header claims ++ dot :: code)) :
    Presents (String.ofList m) (signedPart header claims) ∧ s = characters code := by
  have hnot : '.' ∉ s := by
    have hcount := count_dot_of_presents hcode h
    have hm : 0 < m.count '.' := List.count_pos_iff.mpr hdot
    rw [List.count_append, List.count_cons_self] at hcount
    exact List.count_eq_zero.mp (by omega)
  obtain ⟨lead, trail, hlead, htrail, htext⟩ := h
  rw [String.toList_ofList, characters_dot] at htext
  have hend : trail = [] := by
    rcases List.eq_nil_or_concat' trail with rfl | ⟨front, c, rfl⟩
    · rfl
    · have hlast := congrArg List.getLast? htext
      rw [List.getLast?_append_of_ne_nil _ (List.cons_ne_nil _ _), ← List.append_assoc,
        ← List.append_assoc, List.getLast?_concat] at hlast
      have hblank := htrail c (List.mem_append_right front List.mem_cons_self)
      rcases List.mem_cons.mp (List.mem_of_getLast? hlast) with rfl | hmem
      · exact absurd hblank (by decide)
      · rw [hs c hmem] at hblank
        cases hblank
  have hcut : splitLast? '.' (m ++ '.' :: s) =
      some (lead ++ characters (signedPart header claims), characters code) :=
    splitLast?_eq_some_iff.mpr ⟨by rw [htext, hend]; simp, hcode⟩
  rw [splitLast?_eq_some_iff.mpr ⟨rfl, hnot⟩] at hcut
  obtain ⟨hfront, hback⟩ := Prod.mk.inj (Option.some.inj hcut)
  refine ⟨⟨lead, [], hlead, List.forall_mem_nil _, ?_⟩, hback⟩
  rw [String.toList_ofList, hfront, List.append_nil]

/-! ### What is accepted -/

/-- The signature of a text of two parts, if its header names a code and the live key. -/
def signature? (mac : Mac) (a : Authority) (signed : List UInt8) : Option (List UInt8) :=
  match splitLast? dot signed with
  | none => none
  | some (header, _) =>
    match readPart Header.ofWritten? header >>= a.checkHeader with
    | .ok algorithm => some (Base64.urlSafe.encode (mac algorithm a.secret signed))
    | .error _ => none

/-- Whether a presented text verifies as any claims. -/
def Accepts (mac : Mac) (a : Authority) (now : UInt64) (presented : String) : Prop :=
  ∃ c, a.verify mac now presented = .ok c

variable {mac : Mac} {a : Authority} {now : UInt64}

theorem signature?_signedPart {algorithm : MacAlgorithm}
    (hheader : headerOf? header = some ⟨.mac algorithm, some a.keyId⟩) :
    signature? mac a (signedPart header claims) =
      some (Base64.urlSafe.encode (mac algorithm a.secret (signedPart header claims))) := by
  have hcut : splitLast? dot (signedPart header claims) =
      some (Base64.urlSafe.encode header, Base64.urlSafe.encode claims) :=
    splitLast?_eq_some_iff.mpr ⟨rfl, dot_not_mem_encode claims⟩
  have hread : readPart Header.ofWritten? (Base64.urlSafe.encode header) >>= a.checkHeader =
      .ok algorithm :=
    bind_eq_ok_iff.mpr ⟨_, readPart_eq_ok_iff.mpr ⟨header, rfl, hheader⟩,
      checkHeader_eq_ok_iff.mpr rfl⟩
  simp only [signature?, hcut, hread]

/-- What is accepted has two dots. -/
theorem count_dot_of_accepts {text : List Char} (h : Accepts mac a now (String.ofList text)) :
    text.count '.' = 2 := by
  obtain ⟨c, hc⟩ := h
  obtain ⟨algorithm, header, claims, hpresents, -, -, -⟩ := verify_eq_ok_iff.mp hc
  exact count_dot_of_presents (dot_not_mem_characters_encode _) hpresents

/-- **What is accepted ends in the signature of what stands before its second dot.** -/
theorem signature?_of_accepts (hdot : '.' ∈ m) (hs : Unspaced s)
    (h : Accepts mac a now (String.ofList (m ++ '.' :: s))) :
    ∃ octets, signature? mac a (presentedToken (String.ofList m)) = some octets ∧
      s = characters octets := by
  obtain ⟨c, hc⟩ := h
  obtain ⟨algorithm, header, claims, hpresents, hheader, -, -⟩ := verify_eq_ok_iff.mp hc
  have hcut : Presents (String.ofList m) (signedPart header claims) ∧ _ :=
    presents_signed hdot hs (dot_not_mem_characters_encode _) hpresents
  have htoken : presentedToken (String.ofList m) = signedPart header claims :=
    (presentedToken_eq_iff (signedPart_ne_nil header claims)
      isTokenOctet_of_mem_signedPart).mpr hcut.1
  rw [htoken]
  exact ⟨_, signature?_signedPart hheader, hcut.2⟩

theorem eq_of_accepts {t : List Char} (hdot : '.' ∈ m) (hs : Unspaced s) (ht : Unspaced t)
    (hacceptsS : Accepts mac a now (String.ofList (m ++ '.' :: s)))
    (hacceptsT : Accepts mac a now (String.ofList (m ++ '.' :: t))) : s = t := by
  obtain ⟨octets, hoctets, rfl⟩ := signature?_of_accepts hdot hs hacceptsS
  obtain ⟨others, hothers, rfl⟩ := signature?_of_accepts hdot ht hacceptsT
  rw [hoctets, Option.some_inj] at hothers
  rw [hothers]

/-- A text that is accepted, cut at its second dot. -/
theorem exists_cut_of_accepts {text : List Char} (h : Accepts mac a now (String.ofList text)) :
    ∃ m s, text = m ++ '.' :: s ∧ '.' ∈ m := by
  have hcount := count_dot_of_accepts h
  have hmem : '.' ∈ text := List.count_pos_iff.mp (by omega)
  cases hcut : splitLast? '.' text with
  | none =>
      rw [splitLast?, Option.map_eq_none_iff, splitFirst?_eq_none_iff, List.mem_reverse] at hcut
      exact absurd hmem hcut
  | some sides =>
      obtain ⟨htext, hnot⟩ := splitLast?_eq_some_iff.mp hcut
      rw [htext, List.count_append, List.count_cons_self, List.count_eq_zero.mpr hnot] at hcount
      exact ⟨sides.1, sides.2, htext, List.count_pos_iff.mp (by omega)⟩

/-- What is accepted does not go on to anything else that is. -/
theorem eq_nil_of_accepts_append {text rest : List Char} (hunspaced : Unspaced (text ++ rest))
    (haccepts : Accepts mac a now (String.ofList text))
    (hlonger : Accepts mac a now (String.ofList (text ++ rest))) : rest = [] := by
  obtain ⟨m, s, rfl, hdot⟩ := exists_cut_of_accepts haccepts
  rw [List.append_assoc, List.cons_append] at hlonger hunspaced
  have hback : Unspaced (s ++ rest) :=
    fun d hd => hunspaced d (List.mem_append_right m (List.mem_cons_of_mem _ hd))
  have hfront : Unspaced s := fun d hd => hback d (List.mem_append_left rest hd)
  exact List.self_eq_append_right.mp (eq_of_accepts hdot hfront hback haccepts hlonger)

/-- **Signatures are not malleable and tokens cannot be truncated.**  Behind a text and a dot at
most one signature without white space is accepted, where the text has both its parts or the
signature has only one.  And where a token without white space is accepted, nothing is that it
goes on from. -/
theorem signature_is_unique (mac : Mac) (a : Authority) (now : UInt64) :
    (∀ m s t : String, '.' ∈ m.toList ∨ ('.' ∉ s.toList ∧ '.' ∉ t.toList) →
      Unspaced s.toList → Unspaced t.toList → Accepts mac a now (m ++ "." ++ s) →
      Accepts mac a now (m ++ "." ++ t) → s = t) ∧
    ∀ token text : String, Unspaced token.toList → Accepts mac a now token →
      text.toList <+: token.toList → text ≠ token →
      ∃ cause, a.verify mac now text = .error cause := by
  constructor
  · intro m s t hparts hs ht hacceptsS hacceptsT
    have hshape : ∀ u : String, m ++ "." ++ u = String.ofList (m.toList ++ '.' :: u.toList) := by
      intro u
      rw [← String.toList_inj]
      simp
    rw [hshape] at hacceptsS hacceptsT
    have hdot : '.' ∈ m.toList := by
      rcases hparts with hm | ⟨hnot, -⟩
      · exact hm
      · have hcount := count_dot_of_accepts hacceptsS
        rw [List.count_append, List.count_cons_self, List.count_eq_zero.mpr hnot] at hcount
        exact List.count_pos_iff.mp (by omega)
    exact String.toList_inj.mp (eq_of_accepts hdot hs ht hacceptsS hacceptsT)
  · rintro token text htoken haccepts ⟨rest, hrest⟩ hne
    cases hverdict : a.verify mac now text with
    | error cause => exact ⟨cause, rfl⟩
    | ok c =>
        exfalso
        have hcut : Accepts mac a now (String.ofList text.toList) := by
          rw [String.ofList_toList]
          exact ⟨c, hverdict⟩
        rw [← hrest] at htoken
        rw [← String.ofList_toList (s := token), ← hrest] at haccepts
        have hnil : rest = [] := eq_nil_of_accepts_append htoken hcut haccepts
        refine hne (String.toList_inj.mp ?_)
        rw [← hrest, hnil, List.append_nil]

/-- A token with a character behind its signature or without the last one of it. -/
theorem sample_has_one_signature :
    let a : Authority := ⟨[0x73, 0x33], "main", 4, 50⟩
    let c : Claims := ⟨"7-ada", 60, 60, 90, "ada", none, some "ops", 4, 60, "main", "n1", scope⟩
    let signed := signedText (Header.toJson .hs384 a.keyId) c.toJson
    let m := String.ofList (characters signed)
    let s := String.ofList (characters (Base64.urlSafe.encode (hmac .hs384 a.secret signed)))
    Accepts hmac a 75 (m ++ "." ++ s) ∧ ¬ Accepts hmac a 75 (m ++ "." ++ (s ++ "A")) ∧
      ∃ cause,
        a.verify hmac 75 (String.ofList (m ++ "." ++ s).toList.dropLast) = .error cause := by
  intro a c signed m s
  have htoken : m ++ "." ++ s =
      String.ofList (characters (compact hmac a.secret .hs384 a.keyId c)) := by
    rw [← String.toList_inj, String.toList_ofList, compact, characters_dot]
    simp [m, s, signed]
  have hlive : a.Live 75 c := ⟨by decide, by decide, rfl, by decide, rfl⟩
  have haccepts : Accepts hmac a 75 (m ++ "." ++ s) := by
    rw [htoken]
    exact ⟨c, verify_of_presents_compact hlive (presents_characters _)⟩
  have hunspaced : Unspaced (m ++ "." ++ s).toList := by
    rw [htoken, String.toList_ofList]
    intro d hd
    obtain ⟨b, hb, rfl⟩ := List.mem_map.mp hd
    exact (isTokenOctet_of_mem_sealed b hb).plain.2
  have hs : Unspaced s.toList := fun d hd => hunspaced d (by simp [hd])
  have hdot : '.' ∈ m.toList := by simp [m, signed, signedText, characters_dot]
  refine ⟨haccepts, fun hlonger => ?_, ?_⟩
  · have hlong : Unspaced (s ++ "A").toList := by
      intro d hd
      rw [String.toList_append, List.mem_append] at hd
      rcases hd with hd | hd
      · exact hs d hd
      · rw [List.mem_singleton.mp hd]
        decide
    have hsame := (signature_is_unique hmac a 75).1 m s (s ++ "A") (Or.inl hdot) hs hlong haccepts
      hlonger
    exact absurd (congrArg String.length hsame) (by simp)
  · refine (signature_is_unique hmac a 75).2 _ _ hunspaced haccepts ?_ ?_
    · rw [String.toList_ofList]
      exact List.dropLast_prefix _
    · intro heq
      have hlength := congrArg String.length heq
      have hpos : 0 < (m ++ "." ++ s).length := by
        rw [String.length_append, String.length_append, show ".".length = 1 from rfl]
        omega
      rw [String.length_ofList, List.length_dropLast, String.length_toList] at hlength
      omega

end Authority

end CredentialGateway.Token
