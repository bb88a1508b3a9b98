/-
Control characters and spaces stay in the normal form of a text.

The normal form takes characters apart, moves marks and puts characters together again.
A control character has no parts, and moving loses nothing.  What is left is that it is
never put together with another character, and that is read off the table: no image in it
holds a control character or a space.
-/
import Mathlib
import CredentialGateway.Text.Normal

namespace CredentialGateway.Text

/-! ### The table -/

namespace Span

/-- Whether an image holds no control character and no space. -/
def isPlain (image : List Nat) : Bool :=
  image.all fun v => 0x20 < v

/-- Whether the image in a row of a table is plain. -/
def isPlainRow : List Nat → Bool
  | _ :: _ :: image => isPlain image
  | _ => true

/-- Whether the images in a line of a table are plain. -/
def isPlainLine (line : List Char) : Bool :=
  ((pieces ',' line).map (Runs.numbers 0)).all isPlainRow

theorem isPlain_ofRows {rows : List (List Nat)} (h : ∀ row ∈ rows, isPlainRow row = true) :
    ∀ {position : Nat}, ∀ s ∈ ofRows position rows, isPlain s.image = true := by
  induction rows with
  | nil =>
      intro position s hs
      rw [ofRows] at hs
      · cases hs
      · simp
  | cons row rows ih =>
      intro position s hs
      obtain ⟨hrow, hrows⟩ := List.forall_mem_cons.mp h
      match row, hrow, hs with
      | [], _, hs => simp [ofRows] at hs
      | [_], _, hs => simp [ofRows] at hs
      | gap :: count :: image, hrow, hs =>
          rw [ofRows, List.mem_cons] at hs
          rcases hs with rfl | hs
          · exact hrow
          · exact ih hrows s hs

theorem isPlain_ofLines {lines : List String}
    (h : ∀ line ∈ lines, isPlainLine line.toList = true) :
    ∀ s ∈ ofLines lines, isPlain s.image = true := by
  refine isPlain_ofRows fun row hrow => ?_
  obtain ⟨line, hline, hrow⟩ := List.mem_flatMap.mp hrow
  exact List.all_eq_true.mp (h line hline) row hrow

/-- What has an origin under a span with a plain image is plain. -/
theorem isPlain_of_origin? {s : Span} {image : List Nat} {v : Nat} (hs : isPlain s.image = true)
    (h : s.origin? image = some v) : isPlain image = true := by
  match himage : s.image, image with
  | [], _ => simp [origin?, himage] at h
  | _ :: _, [] => simp [origin?, himage] at h
  | t :: ts, u :: us =>
      simp only [origin?, himage, Option.ite_none_right_eq_some, Bool.and_eq_true,
        decide_eq_true_eq, beq_iff_eq] at h
      rw [himage] at hs
      simp only [isPlain, List.all_cons, Bool.and_eq_true, decide_eq_true_eq] at hs ⊢
      exact ⟨by omega, h.1.2 ▸ hs.2⟩

end Span

namespace Normal

/-- A line of a table is looked at as the list of its characters. -/
theorem forall_line_cons {chars : List Char} {lines : List String}
    (hline : Span.isPlainLine chars = true)
    (hlines : ∀ line ∈ lines, Span.isPlainLine line.toList = true) :
    ∀ line ∈ String.ofList chars :: lines, Span.isPlainLine line.toList = true :=
  List.forall_mem_cons.mpr ⟨by rw [String.toList_ofList]; exact hline, hlines⟩

/-- **No composite is made of a control character or a space.** -/
theorem isPlain_of_mem_composites : ∀ s ∈ composites, Span.isPlain s.image = true := by
  refine Span.isPlain_ofLines ?_
  unfold compositeLines
  repeat
    refine forall_line_cons ?_ ?_
    · decide +kernel
  exact List.forall_mem_nil _

theorem lt_of_composite? {a b c : Char} (h : composite? a b = some c) :
    0x20 < a.toNat ∧ 0x20 < b.toNat := by
  rw [composite?] at h
  cases hjoined : joined? a b with
  | some d =>
      rw [joined?] at hjoined
      simp only [Bool.and_eq_true, decide_eq_true_eq] at hjoined
      split_ifs at hjoined <;> omega
  | none =>
      simp only [hjoined, Option.map_eq_some_iff] at h
      obtain ⟨v, hv, -⟩ := h
      obtain ⟨s, hs, horigin⟩ := List.exists_of_findSome?_eq_some hv
      have hplain := Span.isPlain_of_origin? (isPlain_of_mem_composites s hs) horigin
      simpa [Span.isPlain] using hplain

/-! ### What stays -/

variable {d : Char}

theorem mem_parts (hd : d.toNat ≤ 0x20) : d ∈ parts d := by
  rw [parts, if_pos (by omega)]
  exact List.mem_singleton_self d

theorem mem_apart (hd : d.toNat ≤ 0x20) {text : List Char} (h : d ∈ text) : d ∈ apart text := by
  have hround : ∀ {text : List Char}, d ∈ text → d ∈ text.flatMap parts :=
    fun h => List.mem_flatMap.mpr ⟨d, h, mem_parts hd⟩
  exact hround (hround (hround h))

theorem mem_insertMark (k : Nat) (c : Char) {text : List Char} (h : d = c ∨ d ∈ text) :
    d ∈ insertMark k c text := by
  induction text with
  | nil =>
      rw [insertMark, List.mem_singleton]
      exact h.resolve_right List.not_mem_nil
  | cons e text ih =>
      rw [insertMark]
      split
      · exact List.mem_cons.mpr h
      · rcases h with h | h
        · exact List.mem_cons_of_mem e (ih (.inl h))
        · rcases List.mem_cons.mp h with rfl | h
          · exact List.mem_cons_self
          · exact List.mem_cons_of_mem e (ih (.inr h))

theorem mem_ordered {text : List Char} : ∀ {marks : List Char}, d ∈ marks ∨ d ∈ text →
    d ∈ ordered marks text := by
  induction text with
  | nil =>
      intro marks h
      exact h.resolve_right List.not_mem_nil
  | cons c text ih =>
      intro marks h
      rw [ordered, List.mem_cons] at *
      split
      · rw [List.mem_append, List.mem_cons]
        rcases h with h | h | h
        · exact .inl h
        · exact .inr (.inl h)
        · exact .inr (.inr (ih (.inr h)))
      · refine ih ?_
        rcases h with h | h | h
        · exact .inl (mem_insertMark _ c (.inr h))
        · exact .inl (mem_insertMark _ c (.inl h))
        · exact .inr h

/-- A character is put together with the letter before it, or it is the next letter, or it stays
behind the letter. -/
theorem together_cons (letter c : Char) (passed text : List Char) :
    (∃ made, composite? letter c = some made ∧
      together letter passed (c :: text) = together made passed text) ∨
    together letter passed (c :: text) = letter :: passed.reverse ++ together c [] text ∨
    together letter passed (c :: text) = together letter (c :: passed) text := by
  rw [together.eq_def letter passed (c :: text)]
  dsimp only
  split
  · rename_i made hmade
    exact .inl ⟨made, (Option.ite_none_right_eq_some.mp hmade).2, rfl⟩
  · split
    · exact .inr (.inl rfl)
    · exact .inr (.inr rfl)

theorem mem_together (hd : d.toNat ≤ 0x20) {text : List Char} :
    ∀ {letter : Char} {passed : List Char}, d = letter ∨ d ∈ passed ∨ d ∈ text →
      d ∈ together letter passed text := by
  induction text with
  | nil =>
      intro letter passed h
      rw [together, List.mem_cons, List.mem_reverse]
      exact h.imp_right fun h => h.resolve_right List.not_mem_nil
  | cons c text ih =>
      intro letter passed h
      rcases together_cons letter c passed text with ⟨made, hmade, hstep⟩ | hstep | hstep
      · obtain ⟨hletter, hc⟩ := lt_of_composite? hmade
        rw [hstep]
        refine ih (.inr ?_)
        rcases h with rfl | h | h
        · omega
        · exact .inl h
        · exact .inr ((List.mem_cons.mp h).resolve_left (by rintro rfl; omega))
      · rw [hstep, List.cons_append, List.mem_cons, List.mem_append, List.mem_reverse]
        rcases h with h | h | h
        · exact .inl h
        · exact .inr (.inl h)
        · exact .inr (.inr (ih ((List.mem_cons.mp h).imp_right .inr)))
      · rw [hstep]
        refine ih ?_
        rcases h with h | h | h
        · exact .inl h
        · exact .inr (.inl (List.mem_cons_of_mem c h))
        · rcases List.mem_cons.mp h with rfl | h
          · exact .inr (.inl List.mem_cons_self)
          · exact .inr (.inr h)

end Normal

/-- **A control character or a space of a text is in its normal form.** -/
theorem mem_normal {d : Char} (hd : d.toNat ≤ 0x20) {text : List Char} (h : d ∈ text) :
    d ∈ normal text := by
  have hordered : d ∈ Normal.ordered [] (Normal.apart text) :=
    Normal.mem_ordered (.inr (Normal.mem_apart hd h))
  rw [normal]
  split
  · rename_i hnil
    rw [hnil] at hordered
    cases hordered
  · rename_i c rest hcons
    rw [hcons, List.mem_cons] at hordered
    exact Normal.mem_together hd (hordered.imp_right .inr)

end CredentialGateway.Text
