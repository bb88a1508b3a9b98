/-
What a replacement tells of the value of one name.

Take two look-ups that give one name two values and agree on all other names.  Whatever
does not refer to the name comes out alike from both.  Whatever refers to it comes out
differently: a value that is looked up whole is itself the difference, and in a text that
values are pasted into, unequal values of one length differ where the first of them
stands, and values of unequal lengths make texts of unequal lengths.

So the values that a caller can have replaced tell exactly what they refer to, for every
name that can be looked up at all.
-/
import Mathlib
import CredentialGateway.Proofs.Form.RoundTrip
import CredentialGateway.Proofs.Json.Leaves
import CredentialGateway.Substitution

namespace CredentialGateway

/-- Two look-ups that differ in the value of one name and in nothing else. -/
structure DifferAt (name : String) (f g : Lookup) : Prop where
  /-- The values of the name are different. -/
  values : ∃ v w, f name = some v ∧ g name = some w ∧ v ≠ w
  /-- The other names have the same value or none. -/
  agree : ∀ other, other ≠ name → f other = g other

namespace DifferAt

variable {name : String} {f g : Lookup}

theorem eq_iff (h : DifferAt name f g) (other : String) : f other = g other ↔ ¬ other = name := by
  refine ⟨?_, h.agree other⟩
  rintro heq rfl
  obtain ⟨v, w, hv, hw, hne⟩ := h.values
  rw [hv, hw] at heq
  exact hne (Option.some_inj.mp heq)

/-- The look-ups know the same names. -/
theorem isSome_eq (h : DifferAt name f g) (other : String) :
    (f other).isSome = (g other).isSome := by
  by_cases hother : other = name
  · obtain ⟨v, w, hv, hw, -⟩ := h.values
    rw [hother, hv, hw]
    rfl
  · rw [h.agree other hother]

theorem eq_none_iff (h : DifferAt name f g) (other : String) : f other = none ↔ g other = none := by
  rw [← Option.not_isSome_iff_eq_none, h.isSome_eq, Option.not_isSome_iff_eq_none]

theorem ne_of_eq_none (h : DifferAt name f g) {other : String} (hnone : f other = none) :
    other ≠ name := by
  rintro rfl
  obtain ⟨v, w, hv, -, -⟩ := h.values
  rw [hnone] at hv
  cases hv

end DifferAt

/-! ### Texts that values are pasted into -/

namespace Reference

/-- Whether a segment is a reference to a name. -/
def Segment.names (name : String) : Segment → Bool
  | .literal _ => false
  | .reference other _ => other = name

/-- Whether a text has a reference to a name in it. -/
def Mentions (name text : String) : Prop :=
  (segments text.toList).any (Segment.names name) = true

instance (name text : String) : Decidable (Mentions name text) :=
  inferInstanceAs (Decidable (_ = true))

/-- Texts put together of parts of the same lengths are the same only if their parts are. -/
theorem eq_of_flatMap_eq {p q : Segment → List Char} {segs : List Segment}
    (hlength : ∀ seg ∈ segs, (p seg).length = (q seg).length)
    (h : segs.flatMap p = segs.flatMap q) : ∀ seg ∈ segs, p seg = q seg := by
  induction segs with
  | nil => simp
  | cons seg segs ih =>
      obtain ⟨hfirst, hrest⟩ := List.forall_mem_cons.mp hlength
      rw [List.flatMap_cons, List.flatMap_cons] at h
      obtain ⟨hseg, hsegs⟩ := List.append_inj h hfirst
      exact List.forall_mem_cons.mpr ⟨hseg, ih hrest hsegs⟩

variable {name v w : String} {f g : Lookup} {segs : List Segment}

theorem replaced_of_names (hv : f name = some v) {seg : Segment} (h : seg.names name = true) :
    seg.replaced f = v.toList := by
  cases seg with
  | literal c => cases h
  | reference other written =>
      obtain rfl : other = name := by simpa [Segment.names] using h
      rw [Segment.replaced, hv]
      rfl

theorem replaced_congr (hagree : ∀ other, other ≠ name → f other = g other) {seg : Segment}
    (h : seg.names name = false) : seg.replaced f = seg.replaced g := by
  cases seg with
  | literal c => rfl
  | reference other written =>
      have hother : other ≠ name := by simpa [Segment.names] using h
      rw [Segment.replaced, Segment.replaced, hagree other hother]

/-- How long a text becomes differs by how long the values are, once for each reference. -/
theorem length_flatMap_replaced (hv : f name = some v) (hw : g name = some w)
    (hagree : ∀ other, other ≠ name → f other = g other) (segs : List Segment) :
    (segs.flatMap (Segment.replaced f)).length + segs.countP (Segment.names name) * w.toList.length =
      (segs.flatMap (Segment.replaced g)).length +
        segs.countP (Segment.names name) * v.toList.length := by
  induction segs with
  | nil => simp
  | cons seg segs ih =>
      rw [List.flatMap_cons, List.flatMap_cons, List.length_append, List.length_append,
        List.countP_cons]
      by_cases hseg : seg.names name = true
      · rw [replaced_of_names hv hseg, replaced_of_names hw hseg, if_pos hseg, Nat.succ_mul,
          Nat.succ_mul]
        omega
      · rw [replaced_congr hagree (Bool.eq_false_iff.mpr hseg), if_neg hseg, Nat.add_zero]
        omega

/-- **Different values make different texts**, wherever they are pasted. -/
theorem flatMap_replaced_ne (h : DifferAt name f g) (hmentions : segs.any (Segment.names name)) :
    segs.flatMap (Segment.replaced f) ≠ segs.flatMap (Segment.replaced g) := by
  obtain ⟨v, w, hv, hw, hne⟩ := h.values
  obtain ⟨seg, hseg, hnames⟩ := List.any_eq_true.mp hmentions
  intro heq
  have hcount := length_flatMap_replaced hv hw h.agree segs
  have hpos : 0 < segs.countP (Segment.names name) := List.countP_pos_iff.mpr ⟨seg, hseg, hnames⟩
  have hlength : v.toList.length = w.toList.length := by
    rw [heq, Nat.add_left_cancel_iff] at hcount
    exact (Nat.eq_of_mul_eq_mul_left hpos hcount).symm
  have hparts : ∀ seg ∈ segs, (seg.replaced f).length = (seg.replaced g).length := by
    intro seg _
    by_cases hnames : seg.names name = true
    · rw [replaced_of_names hv hnames, replaced_of_names hw hnames, hlength]
    · rw [replaced_congr h.agree (Bool.eq_false_iff.mpr hnames)]
  have hsame := eq_of_flatMap_eq hparts heq seg hseg
  rw [replaced_of_names hv hnames, replaced_of_names hw hnames] at hsame
  exact hne (String.toList_inj.mp hsame)

theorem resolves_eq (h : DifferAt name f g) (seg : Segment) : seg.resolves f = seg.resolves g := by
  cases seg with
  | literal c => rfl
  | reference other written => exact h.isSome_eq other

end Reference

namespace Substitution

open Reference

variable {name : String} {f g : Lookup}

theorem isSome_interpolate?_eq (h : DifferAt name f g) (text : String) :
    (interpolate? f text).isSome = (interpolate? g text).isSome := by
  have hany : (segments text.toList).any (Segment.resolves f) =
      (segments text.toList).any (Segment.resolves g) :=
    congrArg _ (funext (resolves_eq h))
  simp only [interpolate?, hany]
  split <;> rfl

theorem resolves_of_names {v : String} (hv : f name = some v) {seg : Segment}
    (h : seg.names name = true) : seg.resolves f = true := by
  cases seg with
  | literal c => cases h
  | reference other written =>
      obtain rfl : other = name := by simpa [Segment.names] using h
      rw [Segment.resolves, hv]
      rfl

/-- A reference to a name that is known is replaced. -/
theorem interpolate?_of_mentions {v text : String} (hv : f name = some v)
    (hmentions : Mentions name text) :
    interpolate? f text =
      some (String.ofList ((segments text.toList).flatMap (Segment.replaced f))) := by
  obtain ⟨seg, hseg, hnames⟩ := List.any_eq_true.mp hmentions
  exact if_pos (List.any_eq_true.mpr ⟨seg, hseg, resolves_of_names hv hnames⟩)

theorem interpolate?_congr (h : DifferAt name f g) {text : String}
    (hmentions : ¬ Mentions name text) : interpolate? f text = interpolate? g text := by
  have hnames : ∀ seg ∈ segments text.toList, seg.names name = false := by
    simpa [Mentions] using hmentions
  have hreplaced : (segments text.toList).flatMap (Segment.replaced f) =
      (segments text.toList).flatMap (Segment.replaced g) :=
    List.flatMap_congr fun seg hseg => replaced_congr h.agree (hnames seg hseg)
  have hany : (segments text.toList).any (Segment.resolves f) =
      (segments text.toList).any (Segment.resolves g) :=
    congrArg _ (funext (resolves_eq h))
  simp only [interpolate?, hany, hreplaced]

/-- **A text is told apart by its references** to the name. -/
theorem interpolate?_eq_iff (h : DifferAt name f g) (text : String) :
    interpolate? f text = interpolate? g text ↔ ¬ Mentions name text := by
  refine ⟨fun heq hmentions => ?_, interpolate?_congr h⟩
  obtain ⟨v, w, hv, hw, -⟩ := h.values
  rw [interpolate?_of_mentions hv hmentions, interpolate?_of_mentions hw hmentions,
    Option.some_inj, String.ofList_inj] at heq
  exact flatMap_replaced_ne h hmentions heq

/-- What comes out of the text is different, too. -/
theorem interpolate_eq_iff (h : DifferAt name f g) (text : String) :
    interpolate f text = interpolate g text ↔ ¬ Mentions name text := by
  have hsome := isSome_interpolate?_eq h text
  rw [← interpolate?_eq_iff h, interpolate, interpolate]
  cases hf : interpolate? f text <;> cases hg : interpolate? g text <;> simp_all

/-! ### Whole strings -/

/-- Whether a string refers to a name, by the first rule that applies to it. -/
inductive Refers (get : Lookup) (name : String) : String → Prop where
  /-- The string is the name. -/
  | whole : Refers get name name
  /-- The string is no name, but `env:` and the name. -/
  | env {s : String} (hnone : get s = none) (henv : envName? s = some name) : Refers get name s
  /-- The string is no name and has no `env:` in front, but a reference in it. -/
  | inside {s : String} (hnone : get s = none) (henv : envName? s = none)
      (hmentions : Mentions name s) : Refers get name s

theorem refers_iff_of_some {get : Lookup} {s value : String} (hs : get s = some value) :
    Refers get name s ↔ s = name := by
  constructor
  · intro hrefers
    cases hrefers with
    | whole => rfl
    | env hnone => rw [hs] at hnone; cases hnone
    | inside hnone => rw [hs] at hnone; cases hnone
  · rintro rfl
    exact .whole

theorem refers_iff_of_env {get : Lookup} {s other : String} (hs : get s = none)
    (hne : s ≠ name) (henv : envName? s = some other) : Refers get name s ↔ other = name := by
  constructor
  · intro hrefers
    cases hrefers with
    | whole => exact absurd rfl hne
    | env _ henv' => exact Option.some_inj.mp (henv.symm.trans henv')
    | inside _ henv' => rw [henv] at henv'; cases henv'
  · rintro rfl
    exact .env hs henv

theorem refers_iff_of_none {get : Lookup} {s : String} (hs : get s = none) (hne : s ≠ name)
    (henv : envName? s = none) : Refers get name s ↔ Mentions name s := by
  constructor
  · intro hrefers
    cases hrefers with
    | whole => exact absurd rfl hne
    | env _ henv' => rw [henv] at henv'; cases henv'
    | inside _ _ hmentions => exact hmentions
  · exact .inside hs henv

theorem isSome_string?_eq (h : DifferAt name f g) (s : String) :
    (string? f s).isSome = (string? g s).isSome := by
  have hname := h.isSome_eq s
  rw [string?, string?]
  cases hf : f s with
  | some value =>
      rw [hf] at hname
      obtain ⟨value', hg⟩ := Option.isSome_iff_exists.mp hname.symm
      rw [hg]
      rfl
  | none =>
      rw [(h.eq_none_iff s).mp hf]
      cases envName? s with
      | some other => exact h.isSome_eq other
      | none => exact isSome_interpolate?_eq h s

/-- **A string is told apart if it refers to the name**, and only then. -/
theorem string?_eq_iff (h : DifferAt name f g) (s : String) :
    string? f s = string? g s ↔ ¬ Refers f name s := by
  cases hf : f s with
  | some value =>
      have hg : (g s).isSome := by rw [← h.isSome_eq, hf]; rfl
      obtain ⟨value', hg⟩ := Option.isSome_iff_exists.mp hg
      have hstring : string? f s = f s ∧ string? g s = g s := by simp [string?, hf, hg]
      rw [refers_iff_of_some hf, hstring.1, hstring.2]
      exact h.eq_iff s
  | none =>
      have hg := (h.eq_none_iff s).mp hf
      have hne := h.ne_of_eq_none hf
      cases henv : envName? s with
      | some other =>
          have hstring : string? f s = f other ∧ string? g s = g other := by
            simp [string?, hf, hg, henv]
          rw [refers_iff_of_env hf hne henv, hstring.1, hstring.2]
          exact h.eq_iff other
      | none =>
          have hstring : string? f s = interpolate? f s ∧ string? g s = interpolate? g s := by
            simp [string?, hf, hg, henv]
          rw [refers_iff_of_none hf hne henv, hstring.1, hstring.2]
          exact interpolate?_eq_iff h s

/-- What a string that refers to the name comes out as is different, too. -/
theorem string_eq_iff (h : DifferAt name f g) (s : String) :
    string f s = string g s ↔ ¬ Refers f name s := by
  have hsome := isSome_string?_eq h s
  rw [← string?_eq_iff h, string, string]
  cases hf : string? f s <;> cases hg : string? g s <;> simp_all

/-! ### Header values -/

/-- Whether a header value refers to a name, by the first rule that applies to it. -/
inductive HeaderRefers (get : Lookup) (name field : String) : String → Prop where
  /-- The value is a bearer credential of an authorization, and that is the name. -/
  | bearer {value : String} (hfield : Text.sameIgnoringCase field.toList "authorization".toList)
      (hbearer : Bearer.has value) (hname : bearerName value = name) :
      HeaderRefers get name field value
  /-- The value refers to no name as a bearer credential, but is the name. -/
  | whole (hbearer : bearerValue? get field name = none) : HeaderRefers get name field name
  /-- The value refers to no name as a whole, but has a reference in it. -/
  | inside {value : String} (hbearer : bearerValue? get field value = none)
      (hnone : get value = none) (hmentions : Mentions name value) :
      HeaderRefers get name field value

theorem bearerValue?_of_bearer {get : Lookup} {field value : String}
    (hfield : Text.sameIgnoringCase field.toList "authorization".toList)
    (hbearer : Bearer.has value) : bearerValue? get field value = get (bearerName value) :=
  if_pos (by rw [hfield, hbearer]; rfl)

/-- A bearer credential whose value is found is one of an authorization, and its name is known. -/
theorem bearerValue?_eq_some_iff {get : Lookup} {field value secret : String} :
    bearerValue? get field value = some secret ↔
      Text.sameIgnoringCase field.toList "authorization".toList = true ∧
        Bearer.has value = true ∧ get (bearerName value) = some secret := by
  rw [bearerValue?, Option.ite_none_right_eq_some, Bool.and_eq_true, and_assoc]

/-- The look-ups find the values of the same bearer credentials. -/
theorem bearerValue?_eq_none_iff (h : DifferAt name f g) (field value : String) :
    bearerValue? f field value = none ↔ bearerValue? g field value = none := by
  rw [bearerValue?, bearerValue?]
  split
  · exact h.eq_none_iff _
  · exact Iff.rfl

theorem headerRefers_iff_of_bearer {get : Lookup} {field value secret : String}
    (hbearer : bearerValue? get field value = some secret) :
    HeaderRefers get name field value ↔ bearerName value = name := by
  constructor
  · intro hrefers
    cases hrefers with
    | bearer _ _ hname => exact hname
    | whole hnone => rw [hbearer] at hnone; cases hnone
    | inside hnone => rw [hbearer] at hnone; cases hnone
  · obtain ⟨hfield, hhas, -⟩ := bearerValue?_eq_some_iff.mp hbearer
    exact .bearer hfield hhas

/-- A value that holds no known bearer credential refers to a known name as a whole or inside. -/
theorem headerRefers_iff_of_none {get : Lookup} {field value v : String} (hv : get name = some v)
    (hbearer : bearerValue? get field value = none) :
    HeaderRefers get name field value ↔
      value = name ∨ get value = none ∧ Mentions name value := by
  constructor
  · intro hrefers
    cases hrefers with
    | bearer hfield hhas hname =>
        rw [bearerValue?_of_bearer hfield hhas, hname, hv] at hbearer
        cases hbearer
    | whole => exact .inl rfl
    | inside _ hnone hmentions => exact .inr ⟨hnone, hmentions⟩
  · rintro (rfl | ⟨hnone, hmentions⟩)
    · exact .whole hbearer
    · exact .inside hbearer hnone hmentions

/-- **A header value is told apart if it refers to the name**, and only then. -/
theorem header?_eq_iff (h : DifferAt name f g) (field value : String) :
    header? f field value = header? g field value ↔ ¬ HeaderRefers f name field value := by
  obtain ⟨v, w, hv, -, -⟩ := h.values
  have hboth := bearerValue?_eq_none_iff h field value
  cases hbearer : bearerValue? f field value with
  | some secret =>
      obtain ⟨secret', hbearer'⟩ : ∃ secret', bearerValue? g field value = some secret' := by
        rw [← Option.ne_none_iff_exists', Ne, ← hboth, hbearer]
        exact Option.some_ne_none secret
      have hheader : header? f field value = some ("Bearer " ++ secret) ∧
          header? g field value = some ("Bearer " ++ secret') := by
        simp [header?, hbearer, hbearer']
      have hsecret := (bearerValue?_eq_some_iff.mp hbearer).2.2
      have hsecret' := (bearerValue?_eq_some_iff.mp hbearer').2.2
      rw [headerRefers_iff_of_bearer hbearer, ← h.eq_iff, hsecret, hsecret', hheader.1,
        hheader.2, Option.some_inj, Option.some_inj, String.append_right_inj]
  | none =>
      have hbearer' := hboth.mp hbearer
      rw [headerRefers_iff_of_none hv hbearer]
      cases hf : f value with
      | some secret =>
          have hg : (g value).isSome := by rw [← h.isSome_eq, hf]; rfl
          obtain ⟨secret', hg⟩ := Option.isSome_iff_exists.mp hg
          have hheader : header? f field value = f value ∧ header? g field value = g value := by
            simp [header?, hbearer, hbearer', hf, hg]
          rw [hheader.1, hheader.2, h.eq_iff]
          simp
      | none =>
          have hg := (h.eq_none_iff value).mp hf
          have hheader : header? f field value = interpolate? f value ∧
              header? g field value = interpolate? g value := by
            simp [header?, hbearer, hbearer', hf, hg]
          rw [hheader.1, hheader.2, interpolate?_eq_iff h]
          simp [h.ne_of_eq_none hf]

/-! ### Queries -/

/-- **A query is told apart if one of its values refers to the name**, and only then. -/
theorem query?_eq_iff (h : DifferAt name f g) (raw : String) :
    query? f raw = query? g raw ↔ ∀ p ∈ Form.parse raw, ¬ Refers f name p.2 := by
  have hany : (Form.parse raw).any (fun p => (string? f p.2).isSome) =
      (Form.parse raw).any (fun p => (string? g p.2).isSome) :=
    congrArg _ (funext fun p => isSome_string?_eq h p.2)
  have hpairs : (Form.parse raw).map (fun p => (p.1, string f p.2)) =
      (Form.parse raw).map (fun p => (p.1, string g p.2)) ↔
        ∀ p ∈ Form.parse raw, ¬ Refers f name p.2 := by
    rw [List.map_inj_left]
    simp only [Prod.mk.injEq, true_and, string_eq_iff h]
  rw [← hpairs]
  simp only [query?, hany]
  split
  · rw [Option.some_inj, String.ofList_inj]
    constructor
    · intro hrender
      rw [← Form.parse_render (List.map _ _), hrender, Form.parse_render]
    · exact congrArg Form.render
  · rename_i hnone
    have hquiet : ∀ p ∈ Form.parse raw, string? g p.2 = none := by simpa using hnone
    refine iff_of_true rfl (hpairs.mpr fun p hp => ?_)
    have hboth : (string? f p.2).isSome = false := by
      rw [isSome_string?_eq h, hquiet p hp]
      rfl
    rw [← string?_eq_iff h, hquiet p hp]
    exact Option.not_isSome_iff_eq_none.mp (Bool.eq_false_iff.mp hboth)

end Substitution

namespace Json

open Substitution

variable {name : String} {f g : Lookup}

theorem isSubstituted_eq (h : DifferAt name f g) (v : Json) :
    v.isSubstituted f = v.isSubstituted g := by
  have hstrings : (fun s => (string? f s).isSome) = fun s => (string? g s).isSome :=
    funext (isSome_string?_eq h)
  rw [isSubstituted, isSubstituted, hstrings]

/-- **A JSON value is told apart if one of its strings refers to the name**, and only then. -/
theorem substitute_eq_iff (h : DifferAt name f g) (v : Json) :
    v.substitute f = v.substitute g ↔ ∀ s ∈ v.leaves, ¬ Refers f name s := by
  rw [substitute, substitute, mapStrings_eq_iff]
  exact forall₂_congr fun s _ => string_eq_iff h s

end Json

end CredentialGateway
