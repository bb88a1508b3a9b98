/-
Cutting a text puts nothing in and leaves nothing out.

Each cut is said by what it cuts: the text is the pieces put together again, and the
piece on the side where the cut is looked for holds no separator.  The last separator
is the first one of the reversed text, and a suffix is a prefix of it, so those two
follow by reversing.
-/
import Mathlib
import CredentialGateway.Text.Cut

namespace CredentialGateway.Text

section Separators

variable {α : Type} [DecidableEq α]

theorem splitFirst?_eq_some_iff {sep : α} :
    ∀ {text left right : List α},
      splitFirst? sep text = some (left, right) ↔ text = left ++ sep :: right ∧ sep ∉ left := by
  intro text
  induction text with
  | nil =>
      intro left right
      simp [splitFirst?]
  | cons c text ih =>
      intro left right
      by_cases hc : c = sep
      · rw [splitFirst?, if_pos hc]
        constructor
        · intro h
          cases h
          exact ⟨by rw [hc, List.nil_append], List.not_mem_nil⟩
        · rintro ⟨htext, hnot⟩
          cases left with
          | nil =>
              rw [List.nil_append] at htext
              rw [(List.cons.inj htext).2]
          | cons d left =>
              rw [List.cons_append] at htext
              rw [← (List.cons.inj htext).1, hc] at hnot
              exact absurd List.mem_cons_self hnot
      · rw [splitFirst?, if_neg hc, Option.map_eq_some_iff]
        constructor
        · rintro ⟨⟨l, r⟩, hlr, h⟩
          obtain ⟨htext, hnot⟩ := ih.mp hlr
          cases h
          exact ⟨by rw [htext, List.cons_append],
            fun hmem => (List.mem_cons.mp hmem).elim (fun h => hc h.symm) hnot⟩
        · rintro ⟨htext, hnot⟩
          cases left with
          | nil =>
              rw [List.nil_append] at htext
              exact absurd (List.cons.inj htext).1 hc
          | cons d left =>
              rw [List.cons_append] at htext
              obtain ⟨hd, htext⟩ := List.cons.inj htext
              refine ⟨(left, right), ih.mpr ⟨htext, fun h => hnot (List.mem_cons_of_mem _ h)⟩, ?_⟩
              rw [hd]

theorem splitFirst?_eq_none_iff {sep : α} {text : List α} :
    splitFirst? sep text = none ↔ sep ∉ text := by
  induction text with
  | nil => simp [splitFirst?]
  | cons c text ih =>
      rw [splitFirst?]
      by_cases hc : c = sep
      · simp [hc]
      · rw [if_neg hc, Option.map_eq_none_iff, ih, List.mem_cons, not_or]
        exact ⟨fun hnot => ⟨Ne.symm hc, hnot⟩, And.right⟩

theorem splitLast?_eq_some_iff {sep : α} {text left right : List α} :
    splitLast? sep text = some (left, right) ↔ text = left ++ sep :: right ∧ sep ∉ right := by
  rw [splitLast?, Option.map_eq_some_iff]
  constructor
  · rintro ⟨⟨l, r⟩, hlr, h⟩
    obtain ⟨htext, hnot⟩ := splitFirst?_eq_some_iff.mp hlr
    cases h
    refine ⟨?_, by rwa [List.mem_reverse]⟩
    rw [← List.reverse_reverse text, htext]
    simp only [List.reverse_append, List.reverse_cons, List.append_assoc, List.singleton_append]
  · rintro ⟨htext, hnot⟩
    refine ⟨(right.reverse, left.reverse), splitFirst?_eq_some_iff.mpr ⟨?_, by
      rwa [List.mem_reverse]⟩, ?_⟩
    · rw [htext]
      simp only [List.reverse_append, List.reverse_cons, List.append_assoc, List.singleton_append]
    · simp only [List.reverse_reverse]

theorem after?_eq_some_iff :
    ∀ {lead text rest : List α}, after? lead text = some rest ↔ text = lead ++ rest := by
  intro lead
  induction lead with
  | nil =>
      intro text rest
      rw [after?, List.nil_append, Option.some_inj]
  | cons l lead ih =>
      intro text rest
      cases text with
      | nil => simp [after?]
      | cons c text =>
          rw [after?, List.cons_append, List.cons.injEq]
          by_cases hl : l = c
          · rw [if_pos hl, ih]
            exact ⟨fun h => ⟨hl.symm, h⟩, fun h => h.2⟩
          · rw [if_neg hl]
            exact ⟨fun h => absurd h (Option.some_ne_none _).symm, fun h => absurd h.1.symm hl⟩

theorem after?_toList_eq_some_iff {lead text : String} {rest : List Char} :
    after? lead.toList text.toList = some rest ↔ text = lead ++ String.ofList rest := by
  rw [after?_eq_some_iff, ← String.toList_inj, String.toList_append, String.toList_ofList]

theorem before?_eq_some_iff {tail text rest : List α} :
    before? tail text = some rest ↔ text = rest ++ tail := by
  rw [before?, Option.map_eq_some_iff]
  constructor
  · rintro ⟨r, hr, rfl⟩
    rw [← List.reverse_reverse text, after?_eq_some_iff.mp hr, List.reverse_append,
      List.reverse_reverse]
  · intro h
    exact ⟨rest.reverse, after?_eq_some_iff.mpr (by rw [h, List.reverse_append]),
      List.reverse_reverse rest⟩

theorem occursIn_iff {part : List α} :
    ∀ {text : List α}, occursIn part text = true ↔ part <:+: text := by
  intro text
  induction text with
  | nil => rw [occursIn, List.isEmpty_iff, List.infix_nil]
  | cons c text ih =>
      rw [occursIn, Bool.or_eq_true, List.isPrefixOf_iff_prefix, ih, List.infix_cons_iff]

/-- Every element but the separators is in one of the pieces. -/
theorem exists_mem_pieces {sep c : α} (hne : c ≠ sep) :
    ∀ {text : List α}, c ∈ text → ∃ piece ∈ pieces sep text, c ∈ piece := by
  intro text
  induction text with
  | nil => intro h; cases h
  | cons d text ih =>
      intro h
      rw [pieces]
      by_cases hd : d = sep
      · rw [if_pos hd]
        obtain ⟨piece, hpiece, hmem⟩ := ih ((List.mem_cons.mp h).resolve_left (hd ▸ hne))
        exact ⟨piece, List.mem_cons_of_mem [] hpiece, hmem⟩
      · rw [if_neg hd]
        rcases List.mem_cons.mp h with rfl | h
        · split
          · exact ⟨[c], List.mem_singleton_self _, List.mem_singleton_self c⟩
          · exact ⟨_, List.mem_cons_self, List.mem_cons_self⟩
        · obtain ⟨piece, hpiece, hmem⟩ := ih h
          split
          · rename_i hnil
            rw [hnil] at hpiece
            cases hpiece
          · rename_i p ps hcons
            rw [hcons] at hpiece
            rcases List.mem_cons.mp hpiece with rfl | hpiece
            · exact ⟨_, List.mem_cons_self, List.mem_cons_of_mem d hmem⟩
            · exact ⟨piece, List.mem_cons_of_mem _ hpiece, hmem⟩

theorem pieces_ne_nil (sep : α) (text : List α) : pieces sep text ≠ [] := by
  cases text with
  | nil => simp [pieces]
  | cons c text =>
      rw [pieces]
      split
      · simp
      · split <;> simp

/-- A text is cut at a separator as its two sides are. -/
theorem pieces_append (sep : α) (left right : List α) :
    pieces sep (left ++ sep :: right) = pieces sep left ++ pieces sep right := by
  induction left with
  | nil => simp [pieces]
  | cons c left ih =>
      rw [List.cons_append, pieces, pieces, ih]
      split
      · rfl
      · obtain ⟨piece, more, hpieces⟩ := List.exists_cons_of_ne_nil (pieces_ne_nil sep left)
        rw [hpieces]
        rfl

/-- A text without a separator is one piece. -/
theorem pieces_of_not_mem {sep : α} {text : List α} (h : sep ∉ text) : pieces sep text = [text] := by
  induction text with
  | nil => rfl
  | cons c text ih =>
      rw [List.mem_cons, not_or] at h
      rw [pieces, if_neg (Ne.symm h.1), ih h.2]

/-- No piece has a separator in it. -/
theorem sep_not_mem_pieces (sep : α) (text : List α) : ∀ piece ∈ pieces sep text, sep ∉ piece := by
  induction text with
  | nil => simp [pieces]
  | cons c text ih =>
      obtain ⟨first, more, hpieces⟩ := List.exists_cons_of_ne_nil (pieces_ne_nil sep text)
      rw [hpieces] at ih
      rw [pieces, hpieces]
      split
      · exact List.forall_mem_cons.mpr ⟨List.not_mem_nil, ih⟩
      · rename_i hne
        obtain ⟨hfirst, hmore⟩ := List.forall_mem_cons.mp ih
        refine List.forall_mem_cons.mpr ⟨?_, hmore⟩
        rw [List.mem_cons, not_or]
        exact ⟨Ne.symm hne, hfirst⟩

/-- The first piece ends at the first separator. -/
theorem pieces_eq_cons_iff {sep : α} {text first : List α} {more : List (List α)} :
    pieces sep text = first :: more ↔
      sep ∉ first ∧ (text = first ∧ more = [] ∨
        ∃ rest, text = first ++ sep :: rest ∧ more = pieces sep rest) := by
  constructor
  · intro h
    have hmem : first ∈ pieces sep text := by
      rw [h]
      exact List.mem_cons_self
    have hfirst : sep ∉ first := sep_not_mem_pieces sep text first hmem
    refine ⟨hfirst, ?_⟩
    cases hsplit : splitFirst? sep text with
    | none =>
        rw [pieces_of_not_mem (splitFirst?_eq_none_iff.mp hsplit)] at h
        exact .inl ⟨(List.cons.inj h).1, (List.cons.inj h).2.symm⟩
    | some parts =>
        obtain ⟨htext, hleft⟩ := splitFirst?_eq_some_iff.mp hsplit
        rw [htext, pieces_append, pieces_of_not_mem hleft, List.singleton_append] at h
        exact .inr ⟨parts.2, (List.cons.inj h).1 ▸ htext, (List.cons.inj h).2.symm⟩
  · rintro ⟨hfirst, ⟨rfl, rfl⟩ | ⟨rest, rfl, rfl⟩⟩
    · exact pieces_of_not_mem hfirst
    · rw [pieces_append, pieces_of_not_mem hfirst, List.singleton_append]

end Separators

/-! ### Trimming -/

section Trimming

variable {α : Type} {kind : α → Bool}

/-- What stands in front of a trimmed start is of the kind. -/
theorem trimStart_split (kind : α → Bool) (text : List α) :
    ∃ lead, (∀ c ∈ lead, kind c = true) ∧ text = lead ++ trimStart kind text :=
  ⟨text.takeWhile kind, fun _ hc => List.mem_takeWhile_imp hc,
    List.takeWhile_append_dropWhile.symm⟩

theorem trimEnd_split (kind : α → Bool) (text : List α) :
    ∃ trail, (∀ c ∈ trail, kind c = true) ∧ text = trimEnd kind text ++ trail := by
  obtain ⟨lead, hlead, htext⟩ := trimStart_split kind text.reverse
  refine ⟨lead.reverse, fun c hc => hlead c (List.mem_reverse.mp hc), ?_⟩
  calc text = text.reverse.reverse := text.reverse_reverse.symm
    _ = (lead ++ trimStart kind text.reverse).reverse := by rw [← htext]
    _ = trimEnd kind text ++ lead.reverse := List.reverse_append

/-- Trimming at the start ends at an element of another kind. -/
theorem trimStart_append_cons {c : α} (hc : kind c = false) (front rest : List α) :
    trimStart kind (front ++ c :: rest) = trimStart kind front ++ c :: rest := by
  have hstop : (c :: rest).dropWhile kind = c :: rest :=
    List.dropWhile_cons_of_neg (by rw [hc]; exact Bool.false_ne_true)
  rw [trimStart, trimStart, List.dropWhile_append, hstop]
  split
  · rename_i hempty
    rw [List.isEmpty_iff.mp hempty, List.nil_append]
  · rfl

theorem trimEnd_append_cons {c : α} (hc : kind c = false) (front rest : List α) :
    trimEnd kind (front ++ c :: rest) = front ++ c :: trimEnd kind rest := by
  have hreverse : (front ++ c :: rest).reverse = rest.reverse ++ c :: front.reverse := by simp
  have hstart := trimStart_append_cons hc rest.reverse front.reverse
  rw [trimStart, trimStart] at hstart
  rw [trimEnd, hreverse, hstart]
  simp [trimEnd]

/-- What is of the kind behind a text is trimmed off. -/
theorem trimEnd_append_of_forall {trail : List α} (htrail : ∀ c ∈ trail, kind c = true)
    (text : List α) : trimEnd kind (text ++ trail) = trimEnd kind text := by
  rw [trimEnd, trimEnd, List.reverse_append, List.dropWhile_append_of_pos]
  exact fun c hc => htrail c (List.mem_reverse.mp hc)

theorem trimStart_append {lead : List α} {c : α} (rest : List α)
    (hlead : ∀ d ∈ lead, kind d = true) (hc : kind c = false) :
    trimStart kind (lead ++ c :: rest) = c :: rest := by
  have hnone : trimStart kind lead = [] := List.dropWhile_eq_nil_iff.mpr hlead
  rw [trimStart_append_cons hc, hnone, List.nil_append]

theorem trimEnd_append {trail : List α} {c : α} (rest : List α)
    (htrail : ∀ d ∈ trail, kind d = true) (hc : kind c = false) :
    trimEnd kind (rest ++ c :: trail) = rest ++ [c] := by
  have hnone : trimEnd kind trail = [] := by
    rw [trimEnd, List.reverse_eq_nil_iff, List.dropWhile_eq_nil_iff]
    exact fun d hd => htrail d (List.mem_reverse.mp hd)
  rw [trimEnd_append_cons hc, hnone]

/-- A text that neither starts nor ends with the kind is what trimming leaves of it. -/
theorem trim_append {lead text trail : List α} (hlead : ∀ c ∈ lead, kind c = true)
    (htrail : ∀ c ∈ trail, kind c = true) (hne : text ≠ [])
    (hfirst : ∀ c, text.head? = some c → kind c = false)
    (hlast : ∀ c, text.getLast? = some c → kind c = false) :
    trim kind (lead ++ (text ++ trail)) = text := by
  have hstart : trimStart kind (lead ++ (text ++ trail)) = text ++ trail := by
    obtain ⟨c, rest, rfl⟩ := List.exists_cons_of_ne_nil hne
    exact trimStart_append (rest ++ trail) hlead (hfirst c rfl)
  have hend : trimEnd kind (text ++ trail) = text := by
    obtain ⟨front, c, rfl⟩ := (List.eq_nil_or_concat' text).resolve_left hne
    rw [List.append_assoc]
    exact trimEnd_append front htrail (hlast c List.getLast?_concat)
  rw [trim, hstart, hend]

theorem trim_split (kind : α → Bool) (text : List α) :
    ∃ lead trail, (∀ c ∈ lead, kind c = true) ∧ (∀ c ∈ trail, kind c = true) ∧
      text = lead ++ (trim kind text ++ trail) := by
  obtain ⟨lead, hlead, htext⟩ := trimStart_split kind text
  obtain ⟨trail, htrail, hrest⟩ := trimEnd_split kind (trimStart kind text)
  exact ⟨lead, trail, hlead, htrail, by rw [trim, ← hrest, ← htext]⟩

theorem head?_trimStart {text : List α} {c : α} (h : (trimStart kind text).head? = some c) :
    kind c = false := by
  have hstop := List.head?_dropWhile_not kind text
  rw [trimStart] at h
  rwa [h] at hstop

theorem getLast?_trimEnd {text : List α} {c : α} (h : (trimEnd kind text).getLast? = some c) :
    kind c = false := by
  rw [trimEnd, List.getLast?_reverse] at h
  exact head?_trimStart h

/-- A trimmed text starts with an element of another kind. -/
theorem head?_trim {text : List α} {c : α} (h : (trim kind text).head? = some c) :
    kind c = false := by
  obtain ⟨trail, -, htext⟩ := trimEnd_split kind (trimStart kind text)
  have hstart : (trimStart kind text).head? = some c := by
    rw [htext, List.head?_append]
    exact Option.or_eq_some_iff.mpr (Or.inl h)
  exact head?_trimStart hstart

/-- A trimmed text ends with an element of another kind. -/
theorem getLast?_trim {text : List α} {c : α} (h : (trim kind text).getLast? = some c) :
    kind c = false :=
  getLast?_trimEnd h

theorem mem_of_mem_trim {text : List α} {c : α} (h : c ∈ trim kind text) : c ∈ text := by
  obtain ⟨lead, trail, -, -, htext⟩ := trim_split kind text
  rw [htext]
  exact List.mem_append_right lead (List.mem_append_left trail h)

end Trimming

end CredentialGateway.Text
