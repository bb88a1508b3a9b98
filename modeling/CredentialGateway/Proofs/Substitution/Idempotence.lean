/-
A second replacement after the first.

The values of a store may be settled, each of them left alone by a replacement of its
own, and still a replacement need not be the last.  A string that is a name, or `env:`
and a name, comes out as a value, and that is settled.  But a value that is pasted into
a text stands beside other text, and what stands there together may be a name, or a
reference that neither the text nor the value held.  The pasted texts are all that can
go wrong, and they do not go wrong when they join cleanly: the whole is no name, and
the text pasted so far never ends in an opening where a value begins or ends.
-/
import Mathlib
import CredentialGateway.Proofs.Json.Leaves
import CredentialGateway.Proofs.Reference.Segments
import CredentialGateway.Proofs.Store.Lookup
import CredentialGateway.Substitution

namespace CredentialGateway

namespace Substitution

open Reference

variable {get : Lookup}

/-! ### Texts with nothing to replace -/

/-- Segments none of which stands for a known name. -/
def Quiet (get : Lookup) (segs : List Segment) : Prop :=
  ∀ seg ∈ segs, seg.resolves get = false

theorem Quiet.append {left right : List Segment} (hleft : Quiet get left)
    (hright : Quiet get right) : Quiet get (left ++ right) :=
  List.forall_mem_append.mpr ⟨hleft, hright⟩

theorem interpolate?_eq_none_iff {t : String} :
    interpolate? get t = none ↔ Quiet get (segments t.toList) := by
  simp [interpolate?, Quiet]

/-- A segment with no known name stands for its own text. -/
theorem replaced_of_resolves {seg : Segment} (h : seg.resolves get = false) :
    seg.replaced get = seg.text := by
  cases seg with
  | literal c => rfl
  | reference name written =>
      have hnone : get name = none := by simpa [Segment.resolves] using h
      simp [Segment.replaced, Segment.text, hnone]

/-- A segment with a known name stands for the value of that name. -/
theorem replaced_eq_value {seg : Segment} (h : seg.resolves get = true) :
    ∃ name value, get name = some value ∧ seg.replaced get = value.toList := by
  cases seg with
  | literal c => cases h
  | reference name written =>
      obtain ⟨value, hvalue⟩ := Option.isSome_iff_exists.mp h
      exact ⟨name, value, hvalue, by simp [Segment.replaced, hvalue]⟩

/-- What comes out of a text is what its segments are replaced by, one after the other. -/
theorem toList_interpolate (get : Lookup) (t : String) :
    (interpolate get t).toList = (segments t.toList).flatMap (Segment.replaced get) := by
  rw [interpolate]
  cases h : interpolate? get t with
  | none =>
      have hquiet := interpolate?_eq_none_iff.mp h
      calc t.toList = textOf (segments t.toList) := (textOf_segments t.toList).symm
        _ = (segments t.toList).flatMap (Segment.replaced get) :=
          List.flatMap_congr fun seg hseg => (replaced_of_resolves (hquiet seg hseg)).symm
  | some r =>
      simp only [interpolate?, Option.ite_none_right_eq_some, Option.some_inj] at h
      rw [Option.getD_some, ← h.2, String.toList_ofList]

/-! ### Texts that values are pasted into -/

/-- What a string comes out as if it falls under the last rule, and values are pasted into it. -/
def interpolated? (get : Lookup) (t : String) : Option String :=
  match get t, envName? t with
  | none, none => interpolate? get t
  | _, _ => none

/-- Whether the text pasted so far ends in no opening where a value begins, nor where a value ends
that something follows. -/
def seamsClosed (get : Lookup) : (before : List Char) → List Segment → Bool
  | _, [] => true
  | before, seg :: segs =>
    let behind := before ++ seg.replaced get
    (!seg.resolves get || !endsOpen before && (segs.isEmpty || !endsOpen behind)) &&
      seamsClosed get behind segs

/-- A string whose values join the text around them without a new name or a new reference. -/
structure JoinsCleanly (get : Lookup) (t : String) : Prop where
  seams : seamsClosed get [] (segments t.toList) = true
  no_name : get (interpolate get t) = none
  no_env_name : ∀ name, envName? (interpolate get t) = some name → get name = none

/-- **Nothing is found again at closed seams.**  What was pasted so far is a front that is done
with and a run of segments that stand for themselves; the run goes on until the next value, which
joins the front. -/
theorem quiet_pasted (hvalues : ∀ name value, get name = some value → interpolate? get value = none)
    {front : List Char} {run segs : List Segment} (hopen : endsOpen front = false)
    (hfront : Quiet get (segments front)) (hrun : Quiet get run) (hcut : IsCut (run ++ segs))
    (hseams : seamsClosed get (front ++ textOf run) segs = true) :
    Quiet get (segments (front ++ textOf run ++ segs.flatMap (Segment.replaced get))) := by
  have hbefore : Quiet get (segments (front ++ textOf run)) := by
    rw [segments_append _ hopen, (IsCut.of_append hcut).1]
    exact hfront.append hrun
  induction segs generalizing front run with
  | nil => simpa using hbefore
  | cons seg segs ih =>
      have hcut' : IsCut (run ++ [seg] ++ segs) := by simpa using hcut
      rw [seamsClosed, Bool.and_eq_true] at hseams
      obtain ⟨hseam, hseams⟩ := hseams
      rw [List.flatMap_cons, ← List.append_assoc]
      cases hresolves : seg.resolves get with
      | false =>
          -- The segment stands for itself, and so does the run with it.
          have hlonger : front ++ textOf run ++ seg.replaced get
              = front ++ textOf (run ++ [seg]) := by
            rw [replaced_of_resolves hresolves, textOf_append, List.append_assoc]
            simp [textOf]
          have hrun' : Quiet get (run ++ [seg]) :=
            hrun.append (List.forall_mem_singleton.mpr hresolves)
          rw [hlonger] at hseams ⊢
          refine ih hopen hfront hrun' hcut' hseams ?_
          rw [segments_append _ hopen, (IsCut.of_append hcut').1]
          exact hfront.append hrun'
      | true =>
          -- Both ends of the value are good for cutting, so it can only find what it holds itself.
          obtain ⟨name, value, hget, hvalue⟩ := replaced_eq_value hresolves
          simp only [hresolves, Bool.not_true, Bool.false_or, Bool.and_eq_true,
            Bool.not_eq_true', Bool.or_eq_true, List.isEmpty_iff] at hseam
          have hquiet : Quiet get (segments (front ++ textOf run ++ seg.replaced get)) := by
            rw [segments_append _ hseam.1, hvalue]
            exact hbefore.append (interpolate?_eq_none_iff.mp (hvalues name value hget))
          rcases hseam.2 with hlast | hclosed
          · rw [hlast, List.flatMap_nil, List.append_nil]
            exact hquiet
          · have hdone : ∀ text : List Char, text = text ++ textOf [] := by simp [textOf]
            rw [hdone (front ++ textOf run ++ seg.replaced get)] at hseams hquiet ⊢
            exact ih hclosed (by simpa [textOf] using hquiet) (List.forall_mem_nil _)
              (IsCut.of_append hcut').2 hseams hquiet

/-! ### The rules for a string -/

/-- A string comes out as a value, or as the text that values are pasted into. -/
theorem string?_cases (get : Lookup) (t : String) :
    (∃ name value, get name = some value ∧ string? get t = some value ∧
        interpolated? get t = none) ∨
      string? get t = interpolated? get t := by
  cases hname : get t with
  | some value =>
      left
      exact ⟨t, value, hname, by simp [string?, hname], by simp [interpolated?, hname]⟩
  | none =>
      cases henv : envName? t with
      | none =>
          right
          simp [string?, interpolated?, hname, henv]
      | some name =>
          have hpasted : interpolated? get t = none := by simp [interpolated?, hname, henv]
          have hstring : string? get t = get name := by simp [string?, hname, henv]
          cases hvalue : get name with
          | none =>
              right
              rw [hstring, hvalue, hpasted]
          | some value =>
              left
              exact ⟨name, value, hvalue, by rw [hstring, hvalue], hpasted⟩

theorem interpolated?_eq_some {t r : String} (h : interpolated? get t = some r) :
    interpolate? get t = some r := by
  unfold interpolated? at h
  split at h
  · exact h
  · cases h

/-- **A second replacement finds something in a pasted text or nowhere.** -/
theorem string?_string_eq_none_iff
    (hsettled : ∀ name value, get name = some value → string? get value = none) (t : String) :
    string? get (string get t) = none ↔
      ∀ r, interpolated? get t = some r → string? get r = none := by
  rcases string?_cases get t with ⟨name, value, hget, hstring, hpasted⟩ | hstring
  · have hvalue : string get t = value := by rw [string, hstring, Option.getD_some]
    rw [hvalue, hpasted]
    simp [hsettled name value hget]
  · rw [string, ← hstring]
    cases hfirst : string? get t with
    | none => simp [hfirst]
    | some r => simp

/-- A pasted text whose values join cleanly is left alone. -/
theorem JoinsCleanly.string?_eq_none {t r : String} (h : JoinsCleanly get t)
    (hvalues : ∀ name value, get name = some value → interpolate? get value = none)
    (hpasted : interpolated? get t = some r) : string? get r = none := by
  have hr := interpolated?_eq_some hpasted
  have heq : interpolate get t = r := by rw [interpolate, hr, Option.getD_some]
  have hname := h.no_name
  have henvName := h.no_env_name
  rw [heq] at hname henvName
  have hquiet : interpolate? get r = none := by
    rw [interpolate?_eq_none_iff, ← heq, toList_interpolate]
    have hnil : Quiet get (segments []) := List.forall_mem_nil _
    have hseams : seamsClosed get ([] ++ textOf []) (segments t.toList) = true := h.seams
    exact quiet_pasted hvalues rfl hnil hnil (isCut_segments t.toList) hseams
  rw [string?, hname]
  cases henv : envName? r with
  | none => exact hquiet
  | some name => exact henvName name henv

end Substitution

namespace Json

open Substitution

variable {get : Lookup}

/-- A value that a replacement leaves alone, and says so. -/
def Settled (get : Lookup) (v : Json) : Prop :=
  v.substitute get = v ∧ v.isSubstituted get = false

theorem isSubstituted_eq_false_iff {v : Json} :
    v.isSubstituted get = false ↔ ∀ t ∈ v.leaves, string? get t = none := by
  rw [isSubstituted, anyString_eq_any, List.any_eq_false]
  simp

theorem settled_iff {v : Json} : v.Settled get ↔ ∀ t ∈ v.leaves, string? get t = none := by
  constructor
  · intro h
    exact isSubstituted_eq_false_iff.mp h.2
  · intro h
    refine ⟨mapStrings_eq_self v fun t ht => ?_, isSubstituted_eq_false_iff.mpr h⟩
    rw [Substitution.string, h t ht, Option.getD_none]

/-- **When a second replacement finds nothing.**  Where every value is settled, the strings that
values are pasted into decide it; and where no value holds a reference, these are settled as soon
as they join cleanly. -/
theorem settled_substitute (s : Store)
    (hsettled : ∀ name value, s.get name = some value → string? s.get value = none) (x : Json) :
    ((x.substitute s.get).Settled s.get ↔
      ∀ t ∈ x.leaves, ∀ r, interpolated? s.get t = some r → string? s.get r = none) ∧
    ((∀ name value, s.get name = some value → interpolate? s.get value = none) →
      (∀ t ∈ x.leaves, (interpolated? s.get t).isSome → JoinsCleanly s.get t) →
      (x.substitute s.get).Settled s.get) := by
  have hexact : (x.substitute s.get).Settled s.get ↔
      ∀ t ∈ x.leaves, ∀ r, interpolated? s.get t = some r → string? s.get r = none := by
    rw [settled_iff, substitute, leaves_mapStrings, List.forall_mem_map]
    exact forall₂_congr fun t _ => string?_string_eq_none_iff hsettled t
  refine ⟨hexact, ?_⟩
  intro hvalues hjoins
  refine hexact.mpr ?_
  intro t ht r hr
  exact (hjoins t ht (Option.isSome_of_eq_some hr)).string?_eq_none hvalues hr

/-- A name, and a text that values join cleanly beside a reference to no known name. -/
theorem settled_substitute_greeting :
    let s : Store := ⟨[("MODEL", "gpt-4"), ("REGION", "eu"), ("PRICE", "$5")], "s3cret", by decide,
      by decide, by decide⟩
    let x : Json := .object [("model", .string "MODEL"),
      ("text", .string "hello $USER from ${REGION}, that is $PRICE")]
    (∀ name value, s.get name = some value → Substitution.string? s.get value = none) ∧
      x.substitute s.get = .object [("model", .string "gpt-4"),
        ("text", .string "hello $USER from eu, that is $5")] ∧
      (x.substitute s.get).Settled s.get := by
  intro s x
  have hentries : ∀ e ∈ s.entries,
      Substitution.string? s.get e.2 = none ∧ interpolate? s.get e.2 = none := by decide +kernel
  have hmodel : Substitution.string s.get "MODEL" = "gpt-4" := by decide +kernel
  have htext : Substitution.string s.get "hello $USER from ${REGION}, that is $PRICE" =
      "hello $USER from eu, that is $5" := by decide +kernel
  have hjoins : JoinsCleanly s.get "hello $USER from ${REGION}, that is $PRICE" := by
    refine ⟨by decide +kernel, by decide +kernel, ?_⟩
    have henv : envName? (interpolate s.get "hello $USER from ${REGION}, that is $PRICE") =
        none := by decide +kernel
    simp [henv]
  refine ⟨fun name value h => (hentries (name, value) (Store.mem_of_get h)).1, ?_, ?_⟩
  · simp only [x, substitute, mapStrings, mapMembers, hmodel, htext]
  · refine (settled_substitute s (fun name value h => ?_) x).2 (fun name value h => ?_) ?_
    · exact (hentries (name, value) (Store.mem_of_get h)).1
    · exact (hentries (name, value) (Store.mem_of_get h)).2
    · intro t ht hpasted
      rcases List.mem_pair.mp ht with rfl | rfl
      · exact absurd hpasted (by decide +kernel)
      · exact hjoins

/-- A settled value pasted in front of a text, and the two together are a reference. -/
theorem price_settles_in_two_steps :
    let s : Store := ⟨[("CURRENCY", "$"), ("PRICE", "12")], "s3cret", by decide, by decide,
      by decide⟩
    let x : Json := .string "${CURRENCY}PRICE"
    (∀ name value, s.get name = some value →
        Substitution.string? s.get value = none ∧ interpolate? s.get value = none) ∧
      x.substitute s.get = .string "$PRICE" ∧
      (x.substitute s.get).substitute s.get = .string "12" ∧
      (x.substitute s.get).isSubstituted s.get = true ∧
      ¬ (x.substitute s.get).Settled s.get := by
  intro s x
  have hentries : ∀ e ∈ s.entries,
      Substitution.string? s.get e.2 = none ∧ interpolate? s.get e.2 = none := by decide +kernel
  have honce : Substitution.string s.get "${CURRENCY}PRICE" = "$PRICE" := by decide +kernel
  have htwice : Substitution.string s.get "$PRICE" = "12" := by decide +kernel
  have hfirst : x.substitute s.get = .string "$PRICE" := congrArg Json.string honce
  have hagain : (x.substitute s.get).isSubstituted s.get = true := by
    rw [hfirst]
    decide +kernel
  refine ⟨fun name value h => hentries (name, value) (Store.mem_of_get h), hfirst, ?_, hagain, ?_⟩
  · rw [hfirst]
    exact congrArg Json.string htwice
  · intro h
    rw [h.2] at hagain
    cases hagain

end Json

end CredentialGateway
