/-
A replacement in a value goes string by string.

What comes out has the shape of what went in, and its strings are those of what went
in, each replaced by itself; a shape and a list of strings make one value at most, so
that says all of it.  Whether anything was replaced is a question about the strings,
too.  Replacing and asking can be done in one walk that carries the answer so far
along (`pass`).  The walk goes into every item and every member, whatever the answer is
by then, which is why the two come out as they do apart.
-/
import Mathlib
import CredentialGateway.Proofs.Json.Paths
import CredentialGateway.Proofs.Substitution.Scan

namespace CredentialGateway

namespace Substitution

open Reference

variable {get : Lookup}

/-! ### Strings that are replaced -/

theorem envName?_eq_some_iff {t name : String} : envName? t = some name ↔ t = "env:" ++ name := by
  have hstart : envStart = "env:".toList := rfl
  rw [envName?, hstart, Option.map_eq_some_iff]
  constructor
  · rintro ⟨rest, hrest, rfl⟩
    exact Text.after?_toList_eq_some_iff.mp hrest
  · intro h
    refine ⟨name.toList, Text.after?_toList_eq_some_iff.mpr ?_, String.ofList_toList⟩
    rwa [String.ofList_toList]

/-- Whether a string is replaced. -/
inductive IsReplaced (get : Lookup) : String → Prop where
  /-- It is the name of an entry. -/
  | whole {t : String} (h : (get t).isSome = true) : IsReplaced get t
  /-- It is `env:` and the name of an entry. -/
  | env {name : String} (h : (get name).isSome = true) : IsReplaced get ("env:" ++ name)
  /-- It does not start with `env:`, and has a reference to an entry in it. -/
  | inside {t name : String} {written : List Char} (hstart : ∀ rest, t ≠ "env:" ++ rest)
      (hreference : .reference name written ∈ segments t.toList) (h : (get name).isSome = true) :
      IsReplaced get t

/-- **A string stands for something else if it is replaced**, and only then. -/
theorem isSome_string?_iff {t : String} : (string? get t).isSome = true ↔ IsReplaced get t := by
  cases hname : get t with
  | some value =>
      have hstring : (string? get t).isSome = true := by simp [string?, hname]
      exact iff_of_true hstring (.whole (by rw [hname]; rfl))
  | none =>
      have hnone : ¬ (get t).isSome = true := by simp [hname]
      cases henv : envName? t with
      | some name =>
          have ht := envName?_eq_some_iff.mp henv
          have hstring : string? get t = get name := by simp [string?, hname, henv]
          rw [hstring]
          constructor
          · intro h
            rw [ht]
            exact .env h
          · intro h
            cases h with
            | whole h => exact absurd h hnone
            | env h => rwa [← (String.append_right_inj "env:").mp ht]
            | inside hstart => exact absurd ht (hstart name)
      | none =>
          have hstart : ∀ rest, t ≠ "env:" ++ rest := by
            intro rest ht
            rw [envName?_eq_some_iff.mpr ht] at henv
            cases henv
          have hstring : string? get t = interpolate? get t := by simp [string?, hname, henv]
          rw [hstring, isSome_interpolate?_iff]
          constructor
          · rintro ⟨name, written, hreference, h⟩
            exact .inside hstart hreference h
          · intro h
            cases h with
            | whole h => exact absurd h hnone
            | env h => exact absurd rfl (hstart _)
            | inside _ hreference h => exact ⟨_, _, hreference, h⟩

end Substitution

namespace Json

open Substitution

variable {get : Lookup}

/-! ### One walk -/

mutual

/-- Replace the references in a value, and note whether anything was replaced. -/
def pass (get : Lookup) : Json → Json × Bool
  | .string t =>
    match string? get t with
    | some replaced => (.string replaced, true)
    | none => (.string t, false)
  | .array items =>
    let (items, changed) := passItems get false items
    (.array items, changed)
  | .object members =>
    let (members, changed) := passMembers get false members
    (.object members, changed)
  | other => (other, false)

/-- Replace the references in items, and note whether anything was replaced there or before. -/
def passItems (get : Lookup) (changed : Bool) : List Json → List Json × Bool
  | [] => ([], changed)
  | v :: vs =>
    let (v, here) := pass get v
    let (vs, changed) := passItems get (here || changed) vs
    (v :: vs, changed)

/-- Replace the references in members, and note whether anything was replaced there or before. -/
def passMembers (get : Lookup) (changed : Bool) :
    List (String × Json) → List (String × Json) × Bool
  | [] => ([], changed)
  | (k, v) :: ms =>
    let (v, here) := pass get v
    let (ms, changed) := passMembers get (here || changed) ms
    ((k, v) :: ms, changed)

end

mutual

/-- **One walk replaces and notes what two walks do.** -/
theorem pass_eq : ∀ v : Json, v.pass get = (v.substitute get, v.isSubstituted get)
  | .null | .bool _ | .integer _ | .double _ => rfl
  | .string t => by
      rw [pass, substitute, mapStrings, isSubstituted, anyString, Substitution.string]
      cases string? get t <;> rfl
  | .array items => by
      rw [pass, passItems_eq false items, Bool.false_or]
      rfl
  | .object members => by
      rw [pass, passMembers_eq false members, Bool.false_or]
      rfl

theorem passItems_eq (changed : Bool) :
    ∀ items : List Json, passItems get changed items =
      (mapItems (Substitution.string get) items,
        changed || anyItem (fun t => (string? get t).isSome) items)
  | [] => by rw [passItems, mapItems, anyItem, Bool.or_false]
  | v :: items => by
      rw [passItems, pass_eq v]
      simp only
      rw [passItems_eq _ items, mapItems, anyItem, substitute, isSubstituted, Bool.or_comm _ changed,
        Bool.or_assoc]

theorem passMembers_eq (changed : Bool) :
    ∀ members : List (String × Json), passMembers get changed members =
      (mapMembers (Substitution.string get) members,
        changed || anyMember (fun t => (string? get t).isSome) members)
  | [] => by rw [passMembers, mapMembers, anyMember, Bool.or_false]
  | (k, v) :: members => by
      rw [passMembers, pass_eq v]
      simp only
      rw [passMembers_eq _ members, mapMembers, anyMember, substitute, isSubstituted,
        Bool.or_comm _ changed, Bool.or_assoc]

end

/-! ### Strings in their places -/

/-- The strings that come out stand where the strings stood, each replaced by itself. -/
theorem at?_substitute_eq_string_iff {x : Json} {path : List Step} {r : String} :
    (x.substitute get).at? path = some (.string r) ↔
      ∃ t, x.at? path = some (.string t) ∧ Substitution.string get t = r := by
  rw [substitute, at?_mapStrings, Option.map_eq_some_iff]
  constructor
  · rintro ⟨v, hv, hstring⟩
    cases v with
    | string t => exact ⟨t, hv, Json.string.inj hstring⟩
    | null | bool _ | integer _ | double _ | array _ | object _ => cases hstring
  · rintro ⟨t, ht, rfl⟩
    exact ⟨_, ht, rfl⟩

theorem isSubstituted_eq_true_iff {x : Json} :
    x.isSubstituted get = true ↔ ∃ t ∈ x.leaves, IsReplaced get t := by
  rw [isSubstituted, anyString_eq_any, List.any_eq_true]
  exact exists_congr fun t => and_congr_right fun _ => isSome_string?_iff

/-- **A replacement goes string by string.**  What comes out of a value is the one value with its
shape whose strings are the strings of the value, each replaced by itself, in their order; so at
every place where there was a string stands what it was replaced by, and there are no other
strings.  There is a change exactly if one of the strings is replaced.  One walk through the value
does both. -/
theorem substitution_is_leafwise (s : Store) (x : Json) :
    (∀ y, y = x.substitute s.get ↔
      y.shape = x.shape ∧ y.leaves = x.leaves.map (Substitution.string s.get)) ∧
    (∀ path r, (x.substitute s.get).at? path = some (.string r) ↔
      ∃ t, x.at? path = some (.string t) ∧ Substitution.string s.get t = r) ∧
    (x.isSubstituted s.get = true ↔ ∃ t ∈ x.leaves, IsReplaced s.get t) ∧
    x.pass s.get = (x.substitute s.get, x.isSubstituted s.get) := by
  have hshape : (x.substitute s.get).shape = x.shape := shape_mapStrings x
  have hleaves : (x.substitute s.get).leaves = x.leaves.map (Substitution.string s.get) :=
    leaves_mapStrings x
  refine ⟨?_, fun _ _ => at?_substitute_eq_string_iff, isSubstituted_eq_true_iff, pass_eq x⟩
  intro y
  constructor
  · rintro rfl
    exact ⟨hshape, hleaves⟩
  · rintro ⟨hy, hyleaves⟩
    exact eq_of_shape_of_leaves y _ (hy.trans hshape.symm) (hyleaves.trans hleaves.symm)

end Json

end CredentialGateway
