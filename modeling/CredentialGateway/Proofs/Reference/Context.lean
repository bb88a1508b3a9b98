/-
A reference stands wherever it is written.

For a reference to be overlooked, another one has to start in the text in front of it
and reach into it.  But `$` and an opening brace are no characters of names, and inside
a reference each of them stands in one place only, right behind the other one.  So what
reaches into a reference from the front is one character long there, and goes on with
its own name at once, which a reference in braces does not.  A bare one does: between
`{` and `}` it is a reference in braces itself.  That is the only exception.
-/
import Mathlib
import CredentialGateway.Proofs.Reference.Segments

namespace CredentialGateway.Reference

variable {name other written front text rest : List Char}

/-! ### Names -/

/-- What a name starts with is a character of names. -/
theorem IsName.isNameChar_of_append {c : Char} (h : IsName name) (heq : name ++ rest = c :: text) :
    isNameChar c = true := by
  obtain ⟨d, name, rfl⟩ := List.exists_cons_of_ne_nil h.nonempty
  obtain ⟨rfl, -⟩ := List.cons.inj heq
  exact h.chars d List.mem_cons_self

/-- A text starts with one name only that ends there. -/
theorem IsName.eq_of_append {back : List Char} (hname : IsName name) (hother : IsName other)
    (hrest : EndsName rest) (hback : EndsName back) (h : name ++ rest = other ++ back) :
    name = other ∧ rest = back := by
  have hat : nameAt (name ++ rest) = nameAt (other ++ back) := by rw [h]
  rw [nameAt_append hname.chars hrest, nameAt_append hother.chars hback] at hat
  subst hat
  exact ⟨rfl, List.append_cancel_left h⟩

/-! ### Marks -/

/-- The characters that a reference starts with. -/
inductive IsMark : Char → Prop where
  | dollar : IsMark '$'
  | brace : IsMark '\x7b'

theorem IsMark.isNameChar_eq_false {c : Char} (h : IsMark c) : isNameChar c = false := by
  cases h <;> decide

/-- There is no mark in a name, nor in the brace behind it. -/
theorem IsName.not_isMark {c : Char} (h : IsName name) (hc : c ∈ name ++ ['\x7d']) :
    ¬ IsMark c := by
  intro hmark
  rcases List.mem_append.mp hc with hc | hc
  · have hchar := h.chars c hc
    rw [hmark.isNameChar_eq_false] at hchar
    cases hchar
  · rw [List.mem_singleton.mp hc] at hmark
    cases hmark

/-- A mark behind the start of two marks, a name and a brace is the second of them. -/
theorem IsName.second_mark {a b c : Char} (hname : IsName name) (hc : IsMark c) (hfront : front ≠ [])
    (h : front ++ c :: text = a :: b :: (name ++ ['\x7d'])) :
    front = [a] ∧ c = b ∧ text = name ++ ['\x7d'] := by
  rcases front with _ | ⟨d, _ | ⟨e, lead⟩⟩
  · exact absurd rfl hfront
  · simp only [List.cons_append, List.nil_append, List.cons.injEq] at h
    obtain ⟨rfl, rfl, rfl⟩ := h
    exact ⟨rfl, rfl, rfl⟩
  · simp only [List.cons_append, List.cons.injEq] at h
    have hmem : c ∈ name ++ ['\x7d'] := by
      rw [← h.2.2]
      exact List.mem_append_right lead List.mem_cons_self
    exact absurd hc (hname.not_isMark hmem)

theorem Stands.exists_mark (h : Stands name written rest) :
    ∃ c text, written = c :: text ∧ IsMark c := by
  cases h with
  | dollarBrace rest => exact ⟨_, _, rfl, .dollar⟩
  | braceDollar rest => exact ⟨_, _, rfl, .brace⟩
  | bare hrest => exact ⟨_, _, rfl, .dollar⟩

/-- **A mark inside a reference stands behind the other mark**, in front of the name and its
brace. -/
theorem Stands.inner_mark {c : Char} (h : Stands name (front ++ c :: text) rest)
    (hname : IsName name) (hfront : front ≠ []) (hc : IsMark c) :
    text = name ++ ['\x7d'] ∧ (front = ['$'] ∧ c = '\x7b' ∨ front = ['\x7b'] ∧ c = '$') := by
  generalize hwritten : front ++ c :: text = written at h
  cases h with
  | dollarBrace rest =>
      obtain ⟨hfirst, hsecond, htext⟩ := hname.second_mark hc hfront hwritten
      exact ⟨htext, Or.inl ⟨hfirst, hsecond⟩⟩
  | braceDollar rest =>
      obtain ⟨hfirst, hsecond, htext⟩ := hname.second_mark hc hfront hwritten
      exact ⟨htext, Or.inr ⟨hfirst, hsecond⟩⟩
  | bare hrest =>
      obtain ⟨d, lead, rfl⟩ := List.exists_cons_of_ne_nil hfront
      rw [List.cons_append, List.cons.injEq] at hwritten
      have hmem : c ∈ name ++ ['\x7d'] := by
        rw [← hwritten.2]
        simp
      exact absurd hc (hname.not_isMark hmem)

/-! ### The place in front of a reference -/

/-- Whether braces stand around the place between two texts. -/
def InBraces (front back : List Char) : Prop :=
  front.getLast? = some '\x7b' ∧ back.head? = some '\x7d'

/-- **No reference reaches into a reference**, but into a bare one between braces. -/
theorem Stands.isSeam (h : Stands name written rest) (hname : IsName name)
    (hbare : written = '$' :: name → ¬ InBraces front rest) : IsSeam front (written ++ rest) := by
  intro text hsuffix htext
  rcases at?_append_or text (written ++ rest) with hat | ⟨other, extra, behind, hother, hextra,
    hacross, hback⟩
  · exact hat
  exfalso
  -- What reaches into the reference goes on there with the mark that it starts with.
  obtain ⟨c, tail, hwritten, hc⟩ := h.exists_mark
  obtain ⟨d, more, rfl⟩ := List.exists_cons_of_ne_nil hextra
  rw [hwritten, List.cons_append, List.cons_append, List.cons.injEq] at hback
  obtain ⟨rfl, hback⟩ := hback
  obtain ⟨rfl, hmarks⟩ := hacross.inner_mark hother htext hc
  rw [List.append_assoc] at hback
  cases h with
  | dollarBrace rest =>
      obtain ⟨-, rfl⟩ := List.cons.inj hwritten
      exact absurd (hother.isNameChar_of_append hback.symm) (by decide)
  | braceDollar rest =>
      obtain ⟨-, rfl⟩ := List.cons.inj hwritten
      exact absurd (hother.isNameChar_of_append hback.symm) (by decide)
  | bare hrest =>
      obtain ⟨rfl, rfl⟩ := List.cons.inj hwritten
      obtain ⟨rfl, rfl⟩ := hname.eq_of_append hother hrest (endsName_brace behind) hback
      rcases hmarks with ⟨-, hbrace⟩ | ⟨rfl, -⟩
      · exact absurd hbrace (by decide)
      · obtain ⟨lead, rfl⟩ := hsuffix
        exact hbare rfl ⟨List.getLast?_concat, rfl⟩

/-- A text that starts with a reference. -/
theorem segments_reference (h : Stands name written rest) (hname : IsName name) :
    segments (written ++ rest) =
      .reference (String.ofList name) written :: segments rest := by
  obtain ⟨c, tail, rfl, -⟩ := h.exists_mark
  have hat : at? (c :: (tail ++ rest)) = some (name, tail.length) :=
    at?_eq_some_iff.mpr ⟨hname, c :: tail, rest, h, rfl, rfl⟩
  rw [List.cons_append, segments_of_at? hat, List.take_left, List.drop_left]

/-- **A text is cut at a reference wherever it stands**, unless it is a bare one in braces. -/
theorem segments_around_reference (h : Stands name written rest) (hname : IsName name)
    (hbare : written = '$' :: name → ¬ InBraces front rest) :
    segments (front ++ (written ++ rest)) =
      segments front ++ .reference (String.ofList name) written :: segments rest := by
  rw [segments_append_of_isSeam (h.isSeam hname hbare), segments_reference h hname]

/-- The references of a text are written in one of the three ways. -/
theorem stands_of_mem_segments {s : String} (h : .reference s written ∈ segments text) :
    IsName s.toList ∧ ∃ rest, Stands s.toList written rest := by
  induction text using segments_induction with
  | nil => cases h
  | literal c text hat ih =>
      rw [segments_of_at?_none hat] at h
      rcases List.mem_cons.mp h with heq | hmem
      · cases heq
      · exact ih hmem
  | reference c text name more hat ih =>
      obtain ⟨hname, whole, rest, hstands, htext, hlength⟩ := at?_eq_some_iff.mp hat
      rw [segments_of_at? hat] at h
      rcases List.mem_cons.mp h with heq | hmem
      · obtain ⟨rfl, rfl⟩ := Segment.reference.inj heq
        have hwhole : whole = c :: text.take more := by
          have htake := congrArg (List.take (more + 1)) htext
          rw [List.take_succ_cons, ← hlength, List.take_left] at htake
          exact htake.symm
        rw [String.toList_ofList, ← hwhole]
        exact ⟨hname, rest, hstands⟩
      · exact ih hmem

end CredentialGateway.Reference
