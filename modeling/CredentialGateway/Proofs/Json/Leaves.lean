/-
The strings of a value.

`leaves` lists the strings of a value, names of members apart, in the order in which
they are written.  Whether some string is of a kind is a question about that list, a
replacement replaces its entries, and a replacement that leaves all of them alone
leaves the value alone.  Each of these is one walk through items and members; after
that nothing has to walk through a value again.
-/
import Mathlib
import CredentialGateway.Substitution

namespace CredentialGateway.Json

mutual

/-- The strings of a value, names apart. -/
def leaves : Json → List String
  | .string s => [s]
  | .array items => leavesOfItems items
  | .object members => leavesOfMembers members
  | _ => []

/-- The strings of an array's items. -/
def leavesOfItems : List Json → List String
  | [] => []
  | v :: vs => leaves v ++ leavesOfItems vs

/-- The strings of an object's members. -/
def leavesOfMembers : List (String × Json) → List String
  | [] => []
  | (_, v) :: ms => leaves v ++ leavesOfMembers ms

end

variable {f g : String → String} {p : String → Bool}

mutual

theorem anyString_eq_any : ∀ v : Json, v.anyString p = v.leaves.any p
  | .null | .bool _ | .integer _ | .double _ => rfl
  | .string s => by simp [anyString, leaves]
  | .array items => by
      rw [anyString, leaves]
      exact anyItem_eq_any items
  | .object members => by
      rw [anyString, leaves]
      exact anyMember_eq_any members

theorem anyItem_eq_any : ∀ items : List Json, anyItem p items = (leavesOfItems items).any p
  | [] => rfl
  | v :: items => by
      rw [anyItem, leavesOfItems, List.any_append, anyString_eq_any v, anyItem_eq_any items]

theorem anyMember_eq_any :
    ∀ members : List (String × Json), anyMember p members = (leavesOfMembers members).any p
  | [] => rfl
  | (_, v) :: members => by
      rw [anyMember, leavesOfMembers, List.any_append, anyString_eq_any v,
        anyMember_eq_any members]

end

mutual

theorem leaves_mapStrings : ∀ v : Json, (v.mapStrings f).leaves = v.leaves.map f
  | .null | .bool _ | .integer _ | .double _ => rfl
  | .string _ => rfl
  | .array items => by
      rw [mapStrings, leaves, leaves]
      exact leaves_mapItems items
  | .object members => by
      rw [mapStrings, leaves, leaves]
      exact leaves_mapMembers members

theorem leaves_mapItems :
    ∀ items : List Json, leavesOfItems (mapItems f items) = (leavesOfItems items).map f
  | [] => rfl
  | v :: items => by
      rw [mapItems, leavesOfItems, leavesOfItems, List.map_append, leaves_mapStrings v,
        leaves_mapItems items]

theorem leaves_mapMembers :
    ∀ members : List (String × Json),
      leavesOfMembers (mapMembers f members) = (leavesOfMembers members).map f
  | [] => rfl
  | (_, v) :: members => by
      rw [mapMembers, leavesOfMembers, leavesOfMembers, List.map_append, leaves_mapStrings v,
        leaves_mapMembers members]

end

mutual

/-- Replacements that agree on every string of a value make the same of the value. -/
theorem mapStrings_congr : ∀ v : Json, (∀ s ∈ v.leaves, f s = g s) →
    v.mapStrings f = v.mapStrings g
  | .null, _ | .bool _, _ | .integer _, _ | .double _, _ => rfl
  | .string s, h => congrArg Json.string (h s List.mem_cons_self)
  | .array items, h => congrArg Json.array (mapItems_congr items h)
  | .object members, h => congrArg Json.object (mapMembers_congr members h)

theorem mapItems_congr :
    ∀ items : List Json, (∀ s ∈ leavesOfItems items, f s = g s) → mapItems f items = mapItems g items
  | [], _ => rfl
  | v :: items, h => by
      rw [leavesOfItems, List.forall_mem_append] at h
      rw [mapItems, mapItems, mapStrings_congr v h.1, mapItems_congr items h.2]

theorem mapMembers_congr :
    ∀ members : List (String × Json), (∀ s ∈ leavesOfMembers members, f s = g s) →
      mapMembers f members = mapMembers g members
  | [], _ => rfl
  | (_, v) :: members, h => by
      rw [leavesOfMembers, List.forall_mem_append] at h
      rw [mapMembers, mapMembers, mapStrings_congr v h.1, mapMembers_congr members h.2]

end

/-- **Two replacements make the same of a value** if they do so of each of its strings, and only
then. -/
theorem mapStrings_eq_iff {v : Json} :
    v.mapStrings f = v.mapStrings g ↔ ∀ s ∈ v.leaves, f s = g s := by
  refine ⟨fun h => ?_, mapStrings_congr v⟩
  have hleaves := congrArg leaves h
  rwa [leaves_mapStrings, leaves_mapStrings, List.map_inj_left] at hleaves

mutual

/-- A replacement that leaves every string of a value alone leaves the value alone. -/
theorem mapStrings_eq_self : ∀ v : Json, (∀ s ∈ v.leaves, f s = s) → v.mapStrings f = v
  | .null, _ | .bool _, _ | .integer _, _ | .double _, _ => rfl
  | .string s, h => congrArg Json.string (h s List.mem_cons_self)
  | .array items, h => congrArg Json.array (mapItems_eq_self items h)
  | .object members, h => congrArg Json.object (mapMembers_eq_self members h)

theorem mapItems_eq_self :
    ∀ items : List Json, (∀ s ∈ leavesOfItems items, f s = s) → mapItems f items = items
  | [], _ => rfl
  | v :: items, h => by
      rw [leavesOfItems, List.forall_mem_append] at h
      rw [mapItems, mapStrings_eq_self v h.1, mapItems_eq_self items h.2]

theorem mapMembers_eq_self :
    ∀ members : List (String × Json), (∀ s ∈ leavesOfMembers members, f s = s) →
      mapMembers f members = members
  | [], _ => rfl
  | (_, v) :: members, h => by
      rw [leavesOfMembers, List.forall_mem_append] at h
      rw [mapMembers, mapStrings_eq_self v h.1, mapMembers_eq_self members h.2]

end

end CredentialGateway.Json
