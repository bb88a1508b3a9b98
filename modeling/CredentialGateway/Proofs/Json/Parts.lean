/-
Values by their parts.

A part of a value stands at a path.  What is a property of every part is a property of the
value and of the values in it (`everywhere_array_iff`, `everywhere_object_iff`), as long as
no object has a name twice: then a path leads to every member.  Two values are the same if
their parts look the same at every path.  For values with sorted objects that is equality
(`eq_of_sameValue`); the order of members is all that paths do not show.
-/
import Mathlib
import CredentialGateway.Proofs.Json.Paths

namespace CredentialGateway.Json

/-! ### Induction -/

/-- A value without parts of its own. -/
def IsScalar : Json → Prop
  | .array _ => False
  | .object _ => False
  | _ => True

/-- Induction on values: a property of all items is one of their array, and a property of the
values of all members is one of their object. -/
@[elab_as_elim]
theorem inductParts {motive : Json → Prop} (scalar : ∀ v, IsScalar v → motive v)
    (array : ∀ items, (∀ v ∈ items, motive v) → motive (.array items))
    (object : ∀ members, (∀ m ∈ members, motive m.2) → motive (.object members)) :
    ∀ v, motive v := by
  intro v
  induction hsize : sizeOf v using Nat.strong_induction_on generalizing v with
  | _ size ih =>
      subst hsize
      cases v with
      | array items =>
          refine array items fun v hv => ih (sizeOf v) ?_ v rfl
          have hitem := List.sizeOf_lt_of_mem hv
          have hvalue := Json.array.sizeOf_spec items
          omega
      | object members =>
          refine object members fun m hm => ih (sizeOf m.2) ?_ m.2 rfl
          have hmember := List.sizeOf_lt_of_mem hm
          have hpair : sizeOf m = 1 + sizeOf m.1 + sizeOf m.2 := rfl
          have hvalue := Json.object.sizeOf_spec members
          omega
      | _ => exact scalar _ trivial

/-! ### Members -/

variable {ms ns : List (String × Json)} {k : String} {u v : Json}

theorem mem_of_lookup (h : ms.lookup k = some v) : (k, v) ∈ ms := by
  obtain ⟨front, rest, rfl, -⟩ := List.lookup_eq_some_iff.mp h
  exact List.mem_append_right _ List.mem_cons_self

/-- Where no name stands twice, each member is found by its name. -/
theorem lookup_eq_some_iff_mem (hnodup : (ms.map Prod.fst).Nodup) :
    ms.lookup k = some v ↔ (k, v) ∈ ms := by
  refine ⟨mem_of_lookup, fun hmem => ?_⟩
  induction ms with
  | nil => cases hmem
  | cons m ms ih =>
      obtain ⟨l, u⟩ := m
      obtain ⟨hfresh, hrest⟩ := List.nodup_cons.mp hnodup
      rw [lookup_cons_ite]
      rcases List.mem_cons.mp hmem with heq | hbehind
      · cases heq
        rw [if_pos rfl]
      · have hname : k ∈ ms.map Prod.fst := List.mem_map.mpr ⟨(k, v), hbehind, rfl⟩
        have hne : k ≠ l := fun heq => hfresh (heq ▸ hname)
        rw [if_neg hne, ih hrest hbehind]

theorem lookup_eq_of_perm (hperm : ms.Perm ns) (hnodup : (ms.map Prod.fst).Nodup) :
    ms.lookup k = ns.lookup k := by
  have hnodup' : (ns.map Prod.fst).Nodup := (hperm.map Prod.fst).nodup_iff.mp hnodup
  refine Option.ext fun v => ?_
  rw [lookup_eq_some_iff_mem hnodup, lookup_eq_some_iff_mem hnodup', hperm.mem_iff]

theorem SortedByName.nodup (h : SortedByName ms) : (ms.map Prod.fst).Nodup :=
  (sortedByName_iff.mp h).imp fun hlt => hlt.ne

/-- Sorted members are known by what is found under each name. -/
theorem eq_of_lookup (hms : SortedByName ms) (hns : SortedByName ns)
    (h : ∀ k, ms.lookup k = ns.lookup k) : ms = ns := by
  have hmem : ∀ m, m ∈ ms ↔ m ∈ ns := by
    rintro ⟨k, v⟩
    rw [← lookup_eq_some_iff_mem hms.nodup, ← lookup_eq_some_iff_mem hns.nodup, h]
  have hperm : ms.Perm ns :=
    (List.perm_ext_iff_of_nodup (List.Nodup.of_map _ hms.nodup)
      (List.Nodup.of_map _ hns.nodup)).mpr hmem
  exact hperm.eq_of_pairwise (fun m n _ _ hmn hnm => absurd hmn (lt_asymm hnm)) hms hns

/-! ### Properties of all parts -/

/-- Whether every part of a value has a property. -/
def Everywhere (P : Json → Prop) (v : Json) : Prop :=
  ∀ path u, v.at? path = some u → P u

variable {P Q : Json → Prop}

theorem Everywhere.self (h : Everywhere P v) : P v :=
  h [] v rfl

theorem Everywhere.imp (h : Everywhere P v) (hPQ : ∀ u, P u → Q u) : Everywhere Q v :=
  fun path u hu => hPQ u (h path u hu)

theorem everywhere_scalar_iff (hv : IsScalar v) : Everywhere P v ↔ P v := by
  refine ⟨Everywhere.self, fun h path u hu => ?_⟩
  cases path with
  | nil =>
      cases hu
      exact h
  | cons step path =>
      rw [at?_scalar (fun _ heq => by rw [heq] at hv; exact hv)
        (fun _ heq => by rw [heq] at hv; exact hv)] at hu
      cases hu

theorem everywhere_array_iff {items : List Json} :
    Everywhere P (.array items) ↔ P (.array items) ∧ ∀ v ∈ items, Everywhere P v := by
  constructor
  · refine fun h => ⟨h.self, fun v hv path u hu => ?_⟩
    obtain ⟨i, hi⟩ := List.mem_iff_getElem?.mp hv
    refine h (.item i :: path) u ?_
    rw [at?, hi, Option.bind_some, hu]
  · rintro ⟨hself, hitems⟩ path u hu
    cases path with
    | nil =>
        cases hu
        exact hself
    | cons step path =>
        cases step with
        | item i =>
            obtain ⟨v, hv, hu⟩ := Option.bind_eq_some_iff.mp hu
            exact hitems v (List.mem_of_getElem? hv) path u hu
        | member name => cases hu

theorem everywhere_object_iff (hnodup : (ms.map Prod.fst).Nodup) :
    Everywhere P (.object ms) ↔ P (.object ms) ∧ ∀ m ∈ ms, Everywhere P m.2 := by
  constructor
  · refine fun h => ⟨h.self, fun m hm path u hu => ?_⟩
    refine h (.member m.1 :: path) u ?_
    rw [at?, (lookup_eq_some_iff_mem hnodup).mpr hm, Option.bind_some, hu]
  · rintro ⟨hself, hmembers⟩ path u hu
    cases path with
    | nil =>
        cases hu
        exact hself
    | cons step path =>
        cases step with
        | item i => cases hu
        | member name =>
            obtain ⟨v, hv, hu⟩ := Option.bind_eq_some_iff.mp hu
            exact hmembers _ (mem_of_lookup hv) path u hu

/-! ### Sameness -/

/-- What shows of a part at its place, apart from the parts in it. -/
def head : Json → Json
  | .array _ => .array []
  | .object _ => .object []
  | v => v

/-- Whether two values look the same at every path: they have items at the same positions and
members of the same names, and scalars that are equal. -/
def SameValue (u v : Json) : Prop :=
  ∀ path, (u.at? path).map head = (v.at? path).map head

theorem SameValue.symm (h : SameValue u v) : SameValue v u :=
  fun path => (h path).symm

theorem SameValue.trans {w : Json} (huv : SameValue u v) (hvw : SameValue v w) : SameValue u w :=
  fun path => (huv path).trans (hvw path)

theorem SameValue.head_eq (h : SameValue u v) : u.head = v.head :=
  Option.some.inj (h [])

/-- An object with sorted members, as a property of a part. -/
def HasSortedNames : Json → Prop
  | .object members => SortedByName members
  | _ => True

/-- Whether the members of all objects are sorted by name. -/
def IsSorted (v : Json) : Prop :=
  Everywhere HasSortedNames v

/-- An object with distinct names, as a property of a part. -/
def HasDistinctNames : Json → Prop
  | .object members => (members.map Prod.fst).Nodup
  | _ => True

theorem IsSorted.distinct (h : IsSorted v) : Everywhere HasDistinctNames v :=
  h.imp fun u hu => by
    cases u with
    | object members => exact SortedByName.nodup hu
    | _ => trivial

theorem head_eq_array_iff : v.head = .array [] ↔ ∃ items, v = .array items := by
  cases v <;> simp [head]

theorem head_eq_object_iff : v.head = .object [] ↔ ∃ members, v = .object members := by
  cases v <;> simp [head]

theorem head_of_isScalar (h : IsScalar v) : v.head = v := by
  cases v with
  | array _ | object _ => cases h
  | _ => rfl

/-- Two values that may be missing are equal if they look the same at every path, and if values
that do are equal. -/
theorem eq_of_sameParts {a b : Option Json}
    (hsame : ∀ path, (a.bind fun v => v.at? path).map head = (b.bind fun v => v.at? path).map head)
    (heq : ∀ u v, a = some u → b = some v → SameValue u v → u = v) : a = b := by
  cases a with
  | none =>
      cases b with
      | none => rfl
      | some v => cases hsame []
  | some u =>
      cases b with
      | none => cases hsame []
      | some v => exact congrArg some (heq u v rfl rfl hsame)

/-- **Sorted values that are the same are equal.** -/
theorem eq_of_sameValue : ∀ {u v : Json}, IsSorted u → IsSorted v → SameValue u v → u = v := by
  intro u
  induction u using inductParts with
  | scalar u hu =>
      intro v _ _ h
      have hhead := h.head_eq
      rw [head_of_isScalar hu] at hhead
      cases v with
      | array items | object members =>
          rw [hhead] at hu
          cases hu
      | _ => exact hhead
  | array items ih =>
      intro v hu hv h
      obtain ⟨others, rfl⟩ := head_eq_array_iff.mp h.head_eq.symm
      have hitems := (everywhere_array_iff.mp hu).2
      have hothers := (everywhere_array_iff.mp hv).2
      refine congrArg Json.array (List.ext_getElem? fun i => ?_)
      refine eq_of_sameParts (fun path => h (.item i :: path)) fun u v hu hv => ?_
      have hmem := List.mem_of_getElem? hu
      exact ih u hmem (hitems u hmem) (hothers v (List.mem_of_getElem? hv))
  | object members ih =>
      intro v hu hv h
      obtain ⟨others, rfl⟩ := head_eq_object_iff.mp h.head_eq.symm
      have hsorted : SortedByName members := hu.self
      have hsorted' : SortedByName others := hv.self
      have hmembers := ((everywhere_object_iff hsorted.nodup).mp hu).2
      have hothers := ((everywhere_object_iff hsorted'.nodup).mp hv).2
      refine congrArg Json.object (eq_of_lookup hsorted hsorted' fun k => ?_)
      refine eq_of_sameParts (fun path => h (.member k :: path)) fun u v hu hv => ?_
      have hmem := mem_of_lookup hu
      exact ih _ hmem (hmembers _ hmem) (hothers _ (mem_of_lookup hv))

/-! ### Normal values -/

variable {kind : Json → Prop} {depth : Nat}

/-- The parts of a normal value are normal, and a path to them takes from the depth. -/
theorem isNormal_at? :
    ∀ (path : List Step) {depth : Nat} {v : Json}, IsNormal kind depth v →
      v.at? path = some u → ∃ rest, depth = path.length + rest ∧ IsNormal kind rest u := by
  intro path
  induction path with
  | nil =>
      intro depth v h hu
      cases hu
      exact ⟨depth, (Nat.zero_add depth).symm, h⟩
  | cons step path ih =>
      intro depth v h hu
      cases v with
      | array items =>
          cases step with
          | member name => cases hu
          | item i =>
              cases depth with
              | zero => exact absurd h id
              | succ depth =>
                  obtain ⟨w, hw, hu⟩ := Option.bind_eq_some_iff.mp hu
                  have hitem := itemsNormal_iff.mp h w (List.mem_of_getElem? hw)
                  obtain ⟨rest, rfl, hrest⟩ := ih hitem hu
                  exact ⟨rest, by rw [List.length_cons]; omega, hrest⟩
      | object members =>
          cases step with
          | item i => cases hu
          | member name =>
              cases depth with
              | zero => exact absurd h id
              | succ depth =>
                  obtain ⟨w, hw, hu⟩ := Option.bind_eq_some_iff.mp hu
                  have hmember := membersNormal_iff.mp h.2 _ (mem_of_lookup hw)
                  obtain ⟨rest, rfl, hrest⟩ := ih hmember hu
                  exact ⟨rest, by rw [List.length_cons]; omega, hrest⟩
      | _ => cases step <;> cases hu

theorem isSorted_of_isNormal (h : IsNormal kind depth v) : IsSorted v := by
  intro path u hu
  obtain ⟨rest, -, hrest⟩ := isNormal_at? path h hu
  match rest, u, hrest with
  | rest + 1, .object members, hrest => exact hrest.1
  | _, .null, _ | _, .bool _, _ | _, .integer _, _ | _, .double _, _ | _, .string _, _
  | _, .array _, _ => trivial

end CredentialGateway.Json
