/-
What one scan of a text makes of it.

The text alone says where its references are, and the names that are known say which of
them are replaced.  So for a text and a set of names there is one list of segments,
and whatever the values are, each of them is put in its own places and looked at in none.

Around a reference there are two places that no other reference lies across.  So the
text in front of it and the text behind it are replaced as if each stood alone.
-/
import Mathlib
import CredentialGateway.Proofs.Reference.Context
import CredentialGateway.Proofs.Substitution.Disclosure
import CredentialGateway.Proofs.Substitution.Idempotence

namespace CredentialGateway

/-! ### References to some names -/

namespace Reference

variable {names : Finset String} {get : Lookup}

/-- What a segment is where only some names are known: a reference to another name is text. -/
def Segment.among (names : Finset String) : Segment → List Segment
  | .literal c => [.literal c]
  | .reference name written =>
    if name ∈ names then [.reference name written] else written.map .literal

/-- Cut a text at its references to some names. -/
def segmentsAmong (names : Finset String) (text : List Char) : List Segment :=
  (segments text).flatMap (Segment.among names)

/-- Text stands for itself. -/
theorem flatMap_literals {f : Segment → List Char} (hf : ∀ c, f (.literal c) = [c])
    (text : List Char) : (text.map Segment.literal).flatMap f = text := by
  rw [List.flatMap_map, List.flatMap_congr fun c _ => hf c, List.flatMap_singleton']

theorem textOf_among (names : Finset String) (seg : Segment) :
    textOf (seg.among names) = seg.text := by
  cases seg with
  | literal c => rfl
  | reference name written =>
      rw [Segment.among]
      split
      · exact List.append_nil written
      · exact flatMap_literals (fun _ => rfl) written

theorem replaced_among (hget : ∀ name, (get name).isSome = true ↔ name ∈ names) (seg : Segment) :
    (seg.among names).flatMap (Segment.replaced get) = seg.replaced get := by
  cases seg with
  | literal c => rfl
  | reference name written =>
      rw [Segment.among]
      split
      · exact List.append_nil _
      · rename_i hunknown
        rw [flatMap_literals (fun _ => rfl)]
        rw [← hget, Option.not_isSome_iff_eq_none] at hunknown
        rw [Segment.replaced, hunknown]
        rfl

/-- Nothing is lost in this cut either. -/
theorem textOf_segmentsAmong (names : Finset String) (text : List Char) :
    textOf (segmentsAmong names text) = text := by
  calc textOf (segmentsAmong names text)
      = (segments text).flatMap fun seg => textOf (seg.among names) := List.flatMap_assoc
    _ = textOf (segments text) := List.flatMap_congr fun seg _ => textOf_among names seg
    _ = text := textOf_segments text

/-- **With the names that are known, this cut is replaced by what the other one is.** -/
theorem replaced_segmentsAmong (hget : ∀ name, (get name).isSome = true ↔ name ∈ names)
    (text : List Char) :
    (segmentsAmong names text).flatMap (Segment.replaced get) =
      (segments text).flatMap (Segment.replaced get) := by
  rw [segmentsAmong, List.flatMap_assoc]
  exact List.flatMap_congr fun seg _ => replaced_among hget seg

/-- The references in this cut are those of the text to the names. -/
theorem mem_segmentsAmong {name : String} {written text : List Char} :
    .reference name written ∈ segmentsAmong names text ↔
      name ∈ names ∧ .reference name written ∈ segments text := by
  rw [segmentsAmong, List.mem_flatMap]
  constructor
  · rintro ⟨seg, hseg, hmem⟩
    cases seg with
    | literal c => simp [Segment.among] at hmem
    | reference other text =>
        rw [Segment.among] at hmem
        split at hmem
        · rename_i hknown
          obtain ⟨rfl, rfl⟩ := Segment.reference.inj (List.mem_singleton.mp hmem)
          exact ⟨hknown, hseg⟩
        · simp at hmem
  · rintro ⟨hname, hmem⟩
    exact ⟨_, hmem, by simp [Segment.among, hname]⟩

end Reference

namespace Substitution

open Reference

variable {get : Lookup}

/-- A text is changed if it has a reference to a known name. -/
theorem isSome_interpolate?_iff {text : String} :
    (interpolate? get text).isSome = true ↔
      ∃ name written, .reference name written ∈ segments text.toList ∧
        (get name).isSome = true := by
  simp only [interpolate?, Option.isSome_ite, List.any_eq_true]
  constructor
  · rintro ⟨seg, hseg, hresolves⟩
    cases seg with
    | literal c => cases hresolves
    | reference name written => exact ⟨name, written, hseg, hresolves⟩
  · rintro ⟨name, written, hmem, hsome⟩
    exact ⟨_, hmem, hsome⟩

/-- **Values are pasted in one scan.**  For a text and a set of names there is one list of
segments: they make up the text, and each is a character or a reference to one of the names.
Whatever store has these names, what comes out of the text is these segments with the value of
its name for every reference, and there is a change exactly if there is a reference.  So a change
of one value changes what stands for that name, and nothing else. -/
theorem interpolate_scans_once (names : Finset String) (text : String) :
    ∃ segs : List Segment, textOf segs = text.toList ∧
      (∀ name written, .reference name written ∈ segs → name ∈ names ∧
        IsName name.toList ∧ ∃ rest, Stands name.toList written rest) ∧
      (∀ s : Store, s.names = names →
        interpolate s.get text = String.ofList (segs.flatMap (Segment.replaced s.get)) ∧
        (∀ name written, .reference name written ∈ segs → ∃ value, s.get name = some value ∧
          (Segment.reference name written).replaced s.get = value.toList) ∧
        ((interpolate? s.get text).isSome = true ↔
          ∃ name written, .reference name written ∈ segs)) ∧
      (∀ s s' : Store, s.names = names → s'.names = names → ∀ changed,
        (∀ name, name ≠ changed → s.get name = s'.get name) →
          ∀ seg ∈ segs, seg.names changed = false → seg.replaced s.get = seg.replaced s'.get) := by
  have hget : ∀ s : Store, s.names = names → ∀ name, (s.get name).isSome = true ↔ name ∈ names := by
    rintro s rfl name
    exact Store.isSome_get_iff_mem_names
  refine ⟨segmentsAmong names text.toList, textOf_segmentsAmong names text.toList, ?_, ?_, ?_⟩
  · intro name written hmem
    obtain ⟨hname, hsegment⟩ := mem_segmentsAmong.mp hmem
    exact ⟨hname, stands_of_mem_segments hsegment⟩
  · intro s hs
    refine ⟨?_, ?_, ?_⟩
    · rw [replaced_segmentsAmong (hget s hs), ← toList_interpolate, String.ofList_toList]
    · intro name written hmem
      obtain ⟨value, hvalue⟩ :=
        Option.isSome_iff_exists.mp ((hget s hs name).mpr (mem_segmentsAmong.mp hmem).1)
      exact ⟨value, hvalue, by rw [Segment.replaced, hvalue]; rfl⟩
    · rw [isSome_interpolate?_iff]
      refine exists₂_congr fun name written => ?_
      rw [mem_segmentsAmong, hget s hs, and_comm]
  · intro s s' _ _ changed hagree seg _ hseg
    exact replaced_congr hagree hseg

/-- Two stores with the same names, whose values would be references in other places, and a text
with nested, adjacent, unclosed and unknown references. -/
theorem values_are_not_rescanned :
    let text := "$\x7b{$A}{$B}A$C$\x7bB"
    let s : Store := ⟨[("A", "${B}"), ("B", "$")], "s3cret", by decide, by decide, by decide⟩
    let s' : Store := ⟨[("B", "{$A}"), ("A", "B\x7d")], "s3cret", by decide, by decide, by decide⟩
    ∃ segs : List Segment, textOf segs = text.toList ∧
      interpolate s.get text = String.ofList (segs.flatMap (Segment.replaced s.get)) ∧
      interpolate s.get text = "$\x7b${B}$A$C$\x7bB" ∧
      interpolate s'.get text = String.ofList (segs.flatMap (Segment.replaced s'.get)) ∧
      interpolate s'.get text = "${B}{$A}A$C$\x7bB" := by
  intro text s s'
  have hs : s.names = {"A", "B"} := by decide
  have hs' : s'.names = {"A", "B"} := by decide
  obtain ⟨segs, htext, -, hreplaced, -⟩ := interpolate_scans_once {"A", "B"} text
  refine ⟨segs, htext, (hreplaced s hs).1, ?_, (hreplaced s' hs').1, ?_⟩
  · decide +kernel
  · decide +kernel

/-! ### The text around a reference -/

/-- **A text is replaced around a reference as its two sides are.** -/
theorem interpolate_around {name front written back : String}
    (h : Stands name.toList written.toList back.toList) (hname : IsName name.toList)
    (hbare : written.toList = '$' :: name.toList → ¬ InBraces front.toList back.toList) :
    interpolate get (front ++ written ++ back) =
      interpolate get front ++ (get name).getD written ++ interpolate get back := by
  have hvalue : (Segment.reference name written.toList).replaced get =
      ((get name).getD written).toList := by
    rw [Segment.replaced]
    cases get name <;> rfl
  have hsegments : segments (front ++ written ++ back).toList =
      segments front.toList ++ .reference name written.toList :: segments back.toList := by
    rw [String.toList_append, String.toList_append, List.append_assoc,
      segments_around_reference h hname hbare, String.ofList_toList]
  rw [← String.toList_inj, toList_interpolate, hsegments, List.flatMap_append, List.flatMap_cons,
    hvalue, String.toList_append, String.toList_append, toList_interpolate, toList_interpolate,
    List.append_assoc]

/-- **A reference is replaced wherever it stands**, and the text on both sides of it as if it stood
alone.  Of a bare reference this holds if its name ends where it ends, and no braces stand around
it. -/
theorem reference_stands_anywhere (s : Store) (name front back : String)
    (hname : IsName name.toList) :
    interpolate s.get (front ++ ("$\x7b" ++ name ++ "\x7d") ++ back) =
        interpolate s.get front ++ (s.get name).getD ("$\x7b" ++ name ++ "\x7d") ++
          interpolate s.get back ∧
      interpolate s.get (front ++ ("\x7b$" ++ name ++ "\x7d") ++ back) =
        interpolate s.get front ++ (s.get name).getD ("\x7b$" ++ name ++ "\x7d") ++
          interpolate s.get back ∧
      (EndsName back.toList → ¬ InBraces front.toList back.toList →
        interpolate s.get (front ++ ("$" ++ name) ++ back) =
          interpolate s.get front ++ (s.get name).getD ("$" ++ name) ++
            interpolate s.get back) := by
  refine ⟨?_, ?_, ?_⟩
  · have htext : ("$\x7b" ++ name ++ "\x7d").toList =
        '$' :: '\x7b' :: (name.toList ++ ['\x7d']) := by simp
    refine interpolate_around (htext ▸ .dollarBrace back.toList) hname fun hbare => ?_
    rw [htext, List.cons.injEq] at hbare
    have hchar := hname.isNameChar_of_append ((List.append_nil name.toList).trans hbare.2.symm)
    exact absurd hchar (by decide)
  · have htext : ("\x7b$" ++ name ++ "\x7d").toList =
        '\x7b' :: '$' :: (name.toList ++ ['\x7d']) := by simp
    refine interpolate_around (htext ▸ .braceDollar back.toList) hname fun hbare => ?_
    rw [htext, List.cons.injEq] at hbare
    exact absurd hbare.1 (by decide)
  · intro hends hbraces
    have htext : ("$" ++ name).toList = '$' :: name.toList := by simp
    exact interpolate_around (htext ▸ .bare hends) hname fun _ => hbraces

/-- A reference in each of the three ways, behind a text that begins others and in front of a closing
brace. -/
theorem region_stands_behind_openings :
    let s : Store := ⟨[("REGION", "eu"), ("USER", "ada")], "s3cret", by decide, by decide,
      by decide⟩
    let front := "$USER $\x7bUSER\x7b$"
    let back := "\x7d $USER"
    IsName "REGION".toList ∧ EndsName back.toList ∧ ¬ InBraces front.toList back.toList ∧
      interpolate s.get (front ++ "${REGION}" ++ back) = "ada $\x7bUSER\x7b$eu\x7d ada" ∧
      interpolate s.get (front ++ "{$REGION}" ++ back) = "ada $\x7bUSER\x7b$eu\x7d ada" ∧
      interpolate s.get (front ++ "$REGION" ++ back) = "ada $\x7bUSER\x7b$eu\x7d ada" := by
  intro s front back
  have hname : IsName "REGION".toList := ⟨by decide, List.all_eq_true.mp (by decide)⟩
  have hback : back.toList = '\x7d' :: " $USER".toList := by decide
  have hends : EndsName back.toList := hback ▸ endsName_brace " $USER".toList
  have hbraces : ¬ InBraces front.toList back.toList := by
    rintro ⟨hbrace, -⟩
    exact absurd hbrace (by decide)
  have hsides : interpolate s.get front ++ "eu" ++ interpolate s.get back =
      "ada $\x7bUSER\x7b$eu\x7d ada" := by decide +kernel
  have hvalue : s.get "REGION" = some "eu" := by decide +kernel
  obtain ⟨hdollar, hbrace, hbare⟩ := reference_stands_anywhere s "REGION" front back hname
  rw [hvalue, Option.getD_some, hsides] at hdollar hbrace
  refine ⟨hname, hends, hbraces, hdollar, hbrace, ?_⟩
  rw [← hsides]
  simpa [hvalue] using hbare hends hbraces

end Substitution

end CredentialGateway
