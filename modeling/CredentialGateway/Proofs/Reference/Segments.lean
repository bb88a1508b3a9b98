/-
How a text is cut at its references.

The cut goes from left to right, so what comes out for a text is what comes out for
its front and then for its rest, as long as no reference lies across the place between
them.  A name is as long as possible, so two things can go wrong there: a reference
that the front only begins is completed by the rest, and a bare name at the end of the
front is made longer by it.  In both cases the front ends in an opening, a text that
could go on as a reference.  `segments_append` says that nothing else matters.

In the other direction a place between two segments of the whole text is always good
for cutting: both sides, cut alone, give their share of the segments again.
-/
import Mathlib
import CredentialGateway.Reference

namespace CredentialGateway.Reference

/-! ### Names -/

/-- A name: one character of names or more. -/
structure IsName (name : List Char) : Prop where
  nonempty : name ≠ []
  chars : ∀ c ∈ name, isNameChar c = true

/-- Whether a text ends a name in front of it. -/
def EndsName (rest : List Char) : Prop :=
  ∀ c, rest.head? = some c → isNameChar c = false

theorem endsName_brace (rest : List Char) : EndsName ('\x7d' :: rest) := by
  intro c hc
  obtain rfl := Option.some.inj hc
  decide

theorem EndsName.front {rest more : List Char} (h : EndsName (rest ++ more)) :
    EndsName rest := by
  intro c hc
  cases rest with
  | nil => cases hc
  | cons d rest => exact h c hc

theorem nameAt_append {name rest : List Char} (hname : ∀ c ∈ name, isNameChar c = true)
    (hrest : EndsName rest) : nameAt (name ++ rest) = name := by
  have hstop : rest.takeWhile isNameChar = [] := by
    cases rest with
    | nil => rfl
    | cons c rest => simp [hrest c rfl]
  rw [nameAt, List.takeWhile_append_of_pos hname, hstop, List.append_nil]

/-- A text is the name at its start and a rest that ends the name. -/
theorem nameAt_split (text : List Char) :
    ∃ rest, text = nameAt text ++ rest ∧ EndsName rest ∧
      ∀ c ∈ nameAt text, isNameChar c = true := by
  refine ⟨text.dropWhile isNameChar, List.takeWhile_append_dropWhile.symm, ?_,
    fun c hc => List.mem_takeWhile_imp hc⟩
  intro c hc
  have hnot := List.head?_dropWhile_not isNameChar text
  rw [hc] at hnot
  simpa using hnot

theorem bracedName?_eq_some_iff {text name : List Char} :
    bracedName? text = some name ↔ IsName name ∧ ∃ rest, text = name ++ '\x7d' :: rest := by
  constructor
  · intro h
    obtain ⟨rest, htext, -, hchars⟩ := nameAt_split text
    simp only [bracedName?, List.isEmpty_iff, Option.ite_none_left_eq_some,
      Option.ite_none_right_eq_some, Option.some_inj] at h
    obtain ⟨hne, hbrace, rfl⟩ := h
    generalize nameAt text = name at htext hbrace hne hchars
    subst htext
    rw [List.getElem?_append_right (Nat.le_refl _), Nat.sub_self] at hbrace
    cases rest with
    | nil => cases hbrace
    | cons c rest =>
        obtain rfl := Option.some.inj hbrace
        exact ⟨⟨hne, hchars⟩, rest, rfl⟩
  · rintro ⟨hname, rest, rfl⟩
    have hat := nameAt_append hname.chars (endsName_brace rest)
    simp [bracedName?, hat, hname.nonempty]

theorem bareName?_eq_some_iff {text name : List Char} :
    bareName? text = some name ↔ IsName name ∧ ∃ rest, text = name ++ rest ∧ EndsName rest := by
  constructor
  · intro h
    obtain ⟨rest, htext, hrest, hchars⟩ := nameAt_split text
    simp only [bareName?, List.isEmpty_iff, Option.ite_none_left_eq_some, Option.some_inj] at h
    obtain ⟨hne, rfl⟩ := h
    exact ⟨⟨hne, hchars⟩, rest, htext, hrest⟩
  · rintro ⟨hname, rest, rfl, hrest⟩
    have hat := nameAt_append hname.chars hrest
    simp [bareName?, hat, hname.nonempty]

/-! ### References -/

/-- A reference to a name, as it is written, in front of a rest. -/
inductive Stands (name : List Char) : (written rest : List Char) → Prop where
  | dollarBrace (rest : List Char) : Stands name ('$' :: '\x7b' :: (name ++ ['\x7d'])) rest
  | braceDollar (rest : List Char) : Stands name ('\x7b' :: '$' :: (name ++ ['\x7d'])) rest
  | bare {rest : List Char} (hrest : EndsName rest) : Stands name ('$' :: name) rest

theorem IsName.ne_brace {name rest text : List Char} (h : IsName name) :
    name ++ rest ≠ '\x7b' :: text := by
  obtain ⟨c, name, rfl⟩ := List.exists_cons_of_ne_nil h.nonempty
  intro heq
  have hc : c = '\x7b' := (List.cons.inj heq).1
  have hchar := h.chars c List.mem_cons_self
  rw [hc] at hchar
  exact absurd hchar (by decide)

/-- **The reference at the start of a text.** -/
theorem at?_eq_some_iff {text name : List Char} {more : Nat} :
    at? text = some (name, more) ↔
      IsName name ∧ ∃ written rest, Stands name written rest ∧ text = written ++ rest ∧
        written.length = more + 1 := by
  constructor
  · intro h
    cases text using at?.fun_cases with
    | case1 text =>
        rw [at?.eq_1, Option.map_eq_some_iff] at h
        obtain ⟨_, hbraced, heq⟩ := h
        cases heq
        obtain ⟨hname, rest, rfl⟩ := bracedName?_eq_some_iff.mp hbraced
        exact ⟨hname, _, rest, .dollarBrace rest, by simp, by simp⟩
    | case2 text =>
        rw [at?.eq_2, Option.map_eq_some_iff] at h
        obtain ⟨_, hbraced, heq⟩ := h
        cases heq
        obtain ⟨hname, rest, rfl⟩ := bracedName?_eq_some_iff.mp hbraced
        exact ⟨hname, _, rest, .braceDollar rest, by simp, by simp⟩
    | case3 text hbrace =>
        rw [at?.eq_3 text hbrace, Option.map_eq_some_iff] at h
        obtain ⟨_, hbare, heq⟩ := h
        cases heq
        obtain ⟨hname, rest, rfl, hrest⟩ := bareName?_eq_some_iff.mp hbare
        exact ⟨hname, _, rest, .bare hrest, by simp, by simp⟩
    | case4 text h1 h2 h3 =>
        rw [at?.eq_4 text h1 h2 h3] at h
        cases h
  · rintro ⟨hname, written, rest, hstands, rfl, hlength⟩
    cases hstands with
    | dollarBrace rest =>
        have hbraced : bracedName? (name ++ '\x7d' :: rest) = some name :=
          bracedName?_eq_some_iff.mpr ⟨hname, rest, rfl⟩
        simp only [List.cons_append, List.append_assoc, List.nil_append]
        rw [at?.eq_1, hbraced]
        simp_all
    | braceDollar rest =>
        have hbraced : bracedName? (name ++ '\x7d' :: rest) = some name :=
          bracedName?_eq_some_iff.mpr ⟨hname, rest, rfl⟩
        simp only [List.cons_append, List.append_assoc, List.nil_append]
        rw [at?.eq_2, hbraced]
        simp_all
    | bare hrest =>
        have hbare : bareName? (name ++ rest) = some name :=
          bareName?_eq_some_iff.mpr ⟨hname, rest, rfl, hrest⟩
        rw [List.cons_append, at?.eq_3 _ fun _ => hname.ne_brace, hbare]
        simp_all

/-- A reference does not reach past the text that it starts. -/
theorem length_of_at? {text name : List Char} {more : Nat} (h : at? text = some (name, more)) :
    more < text.length := by
  obtain ⟨-, written, rest, -, rfl, hlength⟩ := at?_eq_some_iff.mp h
  rw [List.length_append]
  omega

/-! ### Cutting at a place -/

/-- Whether a text could go on as a reference. -/
def isOpening : List Char → Bool
  | '$' :: '\x7b' :: text => text.all isNameChar
  | '\x7b' :: '$' :: text => text.all isNameChar
  | '$' :: text => text.all isNameChar
  | text => text = ['\x7b']

/-- Whether a text ends in an opening. -/
def endsOpen : List Char → Bool
  | [] => false
  | c :: text => isOpening (c :: text) || endsOpen text

theorem endsOpen_of_append {front text : List Char} (h : endsOpen (front ++ text) = false) :
    endsOpen text = false := by
  induction front with
  | nil => exact h
  | cons c front ih =>
      rw [List.cons_append, endsOpen, Bool.or_eq_false_iff] at h
      exact ih h.2

/-- A text that a name and its brace go on from has characters of the name only. -/
theorem all_isNameChar_of_append {name front back : List Char} (hname : IsName name)
    (h : name ++ ['\x7d'] = front ++ back) (hback : back ≠ []) :
    front.all isNameChar = true := by
  have hfront : front <+: name := by
    rcases List.append_eq_append_iff.mp h with ⟨extra, rfl, hextra⟩ | ⟨under, rfl, -⟩
    · have hnil : extra = [] := by
        rcases List.append_eq_singleton_iff.mp hextra.symm with ⟨h, -⟩ | ⟨-, h⟩
        · exact h
        · exact absurd h hback
      rw [hnil, List.append_nil]
    · exact List.prefix_append front under
  rw [List.all_eq_true]
  intro c hc
  exact hname.chars c (hfront.subset hc)

/-- A proper start of a reference is an opening. -/
theorem Stands.isOpening {name front back rest : List Char}
    (h : Stands name (front ++ back) rest) (hname : IsName name) (hfront : front ≠ [])
    (hback : back ≠ []) : isOpening front = true := by
  generalize hwritten : front ++ back = written at h
  cases h with
  | dollarBrace rest =>
      rcases front with _ | ⟨c, _ | ⟨d, front⟩⟩
      · exact absurd rfl hfront
      · obtain ⟨rfl, -⟩ := List.cons.inj hwritten
        rfl
      · simp only [List.cons_append, List.cons.injEq] at hwritten
        obtain ⟨rfl, rfl, hrest⟩ := hwritten
        exact all_isNameChar_of_append hname hrest.symm hback
  | braceDollar rest =>
      rcases front with _ | ⟨c, _ | ⟨d, front⟩⟩
      · exact absurd rfl hfront
      · obtain ⟨rfl, -⟩ := List.cons.inj hwritten
        rfl
      · simp only [List.cons_append, List.cons.injEq] at hwritten
        obtain ⟨rfl, rfl, hrest⟩ := hwritten
        exact all_isNameChar_of_append hname hrest.symm hback
  | bare hrest =>
      rcases front with _ | ⟨c, front⟩
      · exact absurd rfl hfront
      · obtain ⟨rfl, rfl⟩ := List.cons.inj hwritten
        have hall : front.all isNameChar = true := by
          rw [List.all_eq_true]
          intro c hc
          exact hname.chars c (List.mem_append_left back hc)
        have hbrace : ∀ text, front = '\x7b' :: text → False := by
          rintro text rfl
          exact absurd (hname.chars _ List.mem_cons_self) (by decide)
        rw [isOpening.eq_3 front hbrace]
        exact hall

/-- A reference that is complete in the front of a text stands there without the rest, too. -/
theorem at?_of_append {front back name : List Char} {more : Nat}
    (h : at? (front ++ back) = some (name, more)) (hmore : more < front.length) :
    at? front = some (name, more) := by
  obtain ⟨hname, written, rest, hstands, htext, hlength⟩ := at?_eq_some_iff.mp h
  have hle : written.length ≤ front.length := by omega
  obtain ⟨behind, rfl⟩ : written <+: front :=
    List.prefix_of_prefix_length_le (htext ▸ List.prefix_append written rest)
      (List.prefix_append front back) hle
  rw [List.append_assoc, List.append_cancel_left_eq] at htext
  refine at?_eq_some_iff.mpr ⟨hname, written, behind, ?_, rfl, hlength⟩
  subst htext
  cases hstands with
  | dollarBrace rest => exact .dollarBrace behind
  | braceDollar rest => exact .braceDollar behind
  | bare hrest => exact .bare hrest.front

/-- With more behind it a text still starts with a reference, to a longer name perhaps. -/
theorem at?_append_ne_none {front back : List Char} (h : at? front ≠ none) :
    at? (front ++ back) ≠ none := by
  obtain ⟨⟨name, more⟩, hat⟩ := Option.ne_none_iff_exists'.mp h
  obtain ⟨hname, written, rest, hstands, rfl, hlength⟩ := at?_eq_some_iff.mp hat
  rw [List.append_assoc]
  cases hstands with
  | dollarBrace rest =>
      rw [at?_eq_some_iff.mpr ⟨hname, _, _, .dollarBrace (rest ++ back), rfl, hlength⟩]
      exact Option.some_ne_none _
  | braceDollar rest =>
      rw [at?_eq_some_iff.mpr ⟨hname, _, _, .braceDollar (rest ++ back), rfl, hlength⟩]
      exact Option.some_ne_none _
  | bare hrest =>
      -- The name may go on in `back`, so the longest one is taken anew.
      obtain ⟨longer, htext, hends, hchars⟩ := nameAt_split (name ++ (rest ++ back))
      have hlonger : nameAt (name ++ (rest ++ back)) ≠ [] := by
        obtain ⟨c, name, rfl⟩ := List.exists_cons_of_ne_nil hname.nonempty
        simp [nameAt, hname.chars c List.mem_cons_self]
      rw [List.cons_append, htext, ← List.cons_append,
        at?_eq_some_iff.mpr ⟨⟨hlonger, hchars⟩, _, _, .bare hends, rfl, List.length_cons⟩]
      exact Option.some_ne_none _

/-- What a text starts with depends on its front alone, unless that is a proper start of a
reference. -/
theorem at?_append_or (front back : List Char) :
    at? (front ++ back) = at? front ∨
      ∃ name extra rest, IsName name ∧ extra ≠ [] ∧ Stands name (front ++ extra) rest ∧
        back = extra ++ rest := by
  cases hwhole : at? (front ++ back) with
  | none =>
      left
      by_contra hnone
      exact at?_append_ne_none (Ne.symm hnone) hwhole
  | some found =>
      obtain ⟨name, more⟩ := found
      by_cases hmore : more < front.length
      · left
        rw [at?_of_append hwhole hmore]
      · right
        obtain ⟨hname, written, rest, hstands, htext, hlength⟩ := at?_eq_some_iff.mp hwhole
        obtain ⟨extra, rfl⟩ : front <+: written :=
          List.prefix_of_prefix_length_le (List.prefix_append front back)
            (htext ▸ List.prefix_append written rest) (by omega)
        have hextra : extra ≠ [] := by
          rintro rfl
          rw [List.append_nil] at hlength
          omega
        rw [List.append_assoc, List.append_cancel_left_eq] at htext
        exact ⟨name, extra, rest, hname, hextra, hstands, htext⟩

/-- **What a text starts with depends on its front alone**, unless the front is an opening. -/
theorem at?_append {front : List Char} (back : List Char) (hne : front ≠ [])
    (h : isOpening front = false) : at? (front ++ back) = at? front := by
  rcases at?_append_or front back with heq | ⟨name, extra, rest, hname, hextra, hstands, -⟩
  · exact heq
  · rw [hstands.isOpening hname hne hextra] at h
    cases h

/-! ### The segments -/

theorem segmentsFrom_eq (skip : Nat) (text : List Char) :
    segmentsFrom skip text = segments (text.drop skip) := by
  induction text generalizing skip with
  | nil => cases skip <;> rfl
  | cons c text ih =>
      cases skip with
      | zero => rfl
      | succ skip => exact ih skip

theorem segments_of_at? {c : Char} {text name : List Char} {more : Nat}
    (h : at? (c :: text) = some (name, more)) :
    segments (c :: text) =
      .reference (String.ofList name) (c :: text.take more) :: segments (text.drop more) := by
  rw [segments, segmentsFrom, h]
  exact congrArg _ (segmentsFrom_eq more text)

theorem segments_of_at?_none {c : Char} {text : List Char} (h : at? (c :: text) = none) :
    segments (c :: text) = .literal c :: segments text := by
  rw [segments, segmentsFrom, h]
  rfl

/-- To show something of every text, show that it holds of the empty text and carries over from
what stands behind the first segment. -/
theorem segments_induction {motive : List Char → Prop} (nil : motive [])
    (literal : ∀ c text, at? (c :: text) = none → motive text → motive (c :: text))
    (reference : ∀ c text name more, at? (c :: text) = some (name, more) →
      motive (text.drop more) → motive (c :: text)) (text : List Char) : motive text := by
  induction hlength : text.length using Nat.strong_induction_on generalizing text with
  | h n ih =>
      cases text with
      | nil => exact nil
      | cons c text =>
          subst hlength
          cases hat : at? (c :: text) with
          | none => exact literal c text hat (ih _ (Nat.lt_succ_self _) text rfl)
          | some found =>
              refine reference c text found.1 found.2 hat (ih _ ?_ _ rfl)
              rw [List.length_drop, List.length_cons]
              omega

/-- The text that segments are cut from. -/
def textOf (segs : List Segment) : List Char :=
  segs.flatMap Segment.text

/-- **Nothing is lost in the cut.** -/
theorem textOf_segments (text : List Char) : textOf (segments text) = text := by
  induction text using segments_induction with
  | nil => rfl
  | literal c text hat ih =>
      rw [segments_of_at?_none hat, textOf, List.flatMap_cons]
      exact congrArg (c :: ·) ih
  | reference c text name more hat ih =>
      rw [segments_of_at? hat, textOf, List.flatMap_cons]
      calc c :: text.take more ++ textOf (segments (text.drop more))
          = c :: (text.take more ++ text.drop more) := by rw [ih, List.cons_append]
        _ = c :: text := by rw [List.take_append_drop]

/-- Whether no reference lies across the place between two texts: whatever starts in the front is
the same with the back behind it. -/
def IsSeam (front back : List Char) : Prop :=
  ∀ text, text <:+ front → text ≠ [] → at? (text ++ back) = at? text

/-- **A text is cut as its front and its rest are**, if no reference lies across. -/
theorem segments_append_of_isSeam {front back : List Char} (h : IsSeam front back) :
    segments (front ++ back) = segments front ++ segments back := by
  induction front using segments_induction with
  | nil => rfl
  | literal c front hat ih =>
      have hwhole : at? (c :: (front ++ back)) = none := by
        rw [← List.cons_append, h _ List.suffix_rfl (List.cons_ne_nil c front), hat]
      have hrest : IsSeam front back :=
        fun text htext => h text (htext.trans (List.suffix_cons c front))
      rw [List.cons_append, segments_of_at?_none hwhole, segments_of_at?_none hat, ih hrest]
      rfl
  | reference c front name more hat ih =>
      have hwhole : at? (c :: (front ++ back)) = some (name, more) := by
        rw [← List.cons_append, h _ List.suffix_rfl (List.cons_ne_nil c front), hat]
      have hmore : more ≤ front.length := Nat.le_of_lt_succ (length_of_at? hat)
      have hrest : IsSeam (front.drop more) back := fun text htext =>
        h text (htext.trans ((List.drop_suffix more front).trans (List.suffix_cons c front)))
      rw [List.cons_append, segments_of_at? hwhole, segments_of_at? hat,
        List.take_append_of_le_length hmore, List.drop_append_of_le_length hmore, ih hrest]
      rfl

theorem isSeam_of_not_endsOpen {front : List Char} (back : List Char)
    (h : endsOpen front = false) : IsSeam front back := by
  rintro text ⟨lead, rfl⟩ htext
  have hopen := endsOpen_of_append h
  obtain ⟨c, rest, rfl⟩ := List.exists_cons_of_ne_nil htext
  rw [endsOpen, Bool.or_eq_false_iff] at hopen
  exact at?_append back htext hopen.1

/-- A front that does not end in an opening is cut apart from whatever follows. -/
theorem segments_append {front : List Char} (back : List Char) (h : endsOpen front = false) :
    segments (front ++ back) = segments front ++ segments back :=
  segments_append_of_isSeam (isSeam_of_not_endsOpen back h)

/-! ### Places between segments -/

/-- Segments that come out when the text of them is cut. -/
def IsCut (segs : List Segment) : Prop :=
  segments (textOf segs) = segs

theorem isCut_segments (text : List Char) : IsCut (segments text) :=
  congrArg segments (textOf_segments text)

theorem textOf_append (left right : List Segment) :
    textOf (left ++ right) = textOf left ++ textOf right :=
  List.flatMap_append

theorem isCut_literal_cons {c : Char} {segs : List Segment} (hat : at? (c :: textOf segs) = none)
    (h : IsCut segs) : IsCut (.literal c :: segs) := by
  have htext : textOf (.literal c :: segs) = c :: textOf segs := rfl
  rw [IsCut, htext, segments_of_at?_none hat, h]

theorem isCut_reference_cons {c : Char} {written name : List Char} {segs : List Segment}
    (hat : at? (c :: (written ++ textOf segs)) = some (name, written.length)) (h : IsCut segs) :
    IsCut (.reference (String.ofList name) (c :: written) :: segs) := by
  have htext : textOf (.reference (String.ofList name) (c :: written) :: segs)
      = c :: (written ++ textOf segs) := rfl
  rw [IsCut, htext, segments_of_at? hat, List.take_left, List.drop_left, h]

/-- What the first segment of a cut text is, and that the others are a cut of their own. -/
theorem IsCut.of_cons {seg : Segment} {segs : List Segment} (h : IsCut (seg :: segs)) :
    IsCut segs ∧
      ((∃ c, seg = .literal c ∧ at? (c :: textOf segs) = none) ∨
        ∃ c written name, seg = .reference (String.ofList name) (c :: written) ∧
          at? (c :: (written ++ textOf segs)) = some (name, written.length)) := by
  have htext : textOf (seg :: segs) = seg.text ++ textOf segs := rfl
  rw [IsCut, htext] at h
  generalize hwhole : seg.text ++ textOf segs = whole at h
  cases whole with
  | nil => cases h
  | cons c text =>
      cases hat : at? (c :: text) with
      | none =>
          rw [segments_of_at?_none hat] at h
          obtain ⟨rfl, hsegs⟩ := List.cons.inj h
          obtain ⟨-, rfl⟩ := List.cons.inj hwhole
          exact ⟨hsegs, Or.inl ⟨c, rfl, hat⟩⟩
      | some found =>
          obtain ⟨name, more⟩ := found
          rw [segments_of_at? hat] at h
          obtain ⟨rfl, hsegs⟩ := List.cons.inj h
          have hmore : more ≤ text.length := Nat.le_of_lt_succ (length_of_at? hat)
          have htaken : (text.take more).length = more := List.length_take_of_le hmore
          have hrest : text = text.take more ++ textOf segs := (List.cons.inj hwhole).2.symm
          have hsplit : text.take more ++ text.drop more = text.take more ++ textOf segs := by
            rw [List.take_append_drop]
            exact hrest
          have hdropped : text.drop more = textOf segs := List.append_cancel_left hsplit
          refine ⟨by rw [IsCut, ← hdropped, hsegs], Or.inr ⟨c, text.take more, name, rfl, ?_⟩⟩
          rw [← hrest, htaken, hat]

/-- **A place between two segments is good for cutting.** -/
theorem IsCut.of_append {left right : List Segment} (h : IsCut (left ++ right)) :
    IsCut left ∧ IsCut right := by
  induction left with
  | nil => exact ⟨rfl, h⟩
  | cons seg left ih =>
      rw [List.cons_append] at h
      obtain ⟨hrest, hfirst⟩ := IsCut.of_cons h
      obtain ⟨hleft, hright⟩ := ih hrest
      refine ⟨?_, hright⟩
      rcases hfirst with ⟨c, rfl, hat⟩ | ⟨c, written, name, rfl, hat⟩
      · refine isCut_literal_cons ?_ hleft
        by_contra hstarts
        rw [textOf_append, ← List.cons_append] at hat
        exact at?_append_ne_none hstarts hat
      · rw [textOf_append, ← List.append_assoc, ← List.cons_append] at hat
        refine isCut_reference_cons (at?_of_append hat ?_) hleft
        rw [List.length_cons, List.length_append]
        omega

end CredentialGateway.Reference
