/-
What a rewriting of strings leaves of a value.

`shape` is a value with every string made empty: its arrays, its objects with the names of
their members, and its other scalars.  Replacing references and filling slots both put
strings in the place of strings, so they keep the shape; whatever is a matter of the
shape alone, such as the numbers of a value, is then the same before and after.
-/
import Mathlib
import CredentialGateway.Injection
import CredentialGateway.Proofs.Json.Leaves

namespace CredentialGateway.Json

/-- A value with all its strings, names apart, made empty. -/
def shape (v : Json) : Json :=
  v.mapStrings fun _ => ""

variable {f g : String → String} {key : String}

mutual

theorem mapStrings_mapStrings :
    ∀ v : Json, (v.mapStrings f).mapStrings g = v.mapStrings fun s => g (f s)
  | .null | .bool _ | .integer _ | .double _ | .string _ => rfl
  | .array items => congrArg Json.array (mapItems_mapItems items)
  | .object members => congrArg Json.object (mapMembers_mapMembers members)

theorem mapItems_mapItems :
    ∀ items : List Json, mapItems g (mapItems f items) = mapItems (fun s => g (f s)) items
  | [] => rfl
  | v :: items => by
      rw [mapItems, mapItems, mapItems, mapStrings_mapStrings v, mapItems_mapItems items]

theorem mapMembers_mapMembers :
    ∀ members : List (String × Json),
      mapMembers g (mapMembers f members) = mapMembers (fun s => g (f s)) members
  | [] => rfl
  | (_, v) :: members => by
      rw [mapMembers, mapMembers, mapMembers, mapStrings_mapStrings v,
        mapMembers_mapMembers members]

end

/-- Whatever strings are put in place of strings, the shape stays. -/
theorem shape_mapStrings (v : Json) : (v.mapStrings f).shape = v.shape :=
  mapStrings_mapStrings v

/-- Values of one shape have as many strings. -/
theorem length_leaves_of_shape {u v : Json} (h : u.shape = v.shape) :
    u.leaves.length = v.leaves.length := by
  have hleaves := congrArg leaves h
  rw [shape, shape, leaves_mapStrings, leaves_mapStrings] at hleaves
  simpa using congrArg List.length hleaves

mutual

/-- **A value is its shape and its strings.** -/
theorem eq_of_shape_of_leaves :
    ∀ u v : Json, u.shape = v.shape → u.leaves = v.leaves → u = v
  | .null, v, hshape, _ | .bool _, v, hshape, _ | .integer _, v, hshape, _
  | .double _, v, hshape, _ => by
      cases v with
      | null | bool _ | integer _ | double _ => exact hshape
      | string _ | array _ | object _ => cases hshape
  | .string s, v, hshape, hleaves => by
      cases v with
      | string t => exact congrArg Json.string (List.singleton_inj.mp hleaves)
      | null | bool _ | integer _ | double _ | array _ | object _ => cases hshape
  | .array items, v, hshape, hleaves => by
      cases v with
      | array others =>
          exact congrArg Json.array
            (items_eq_of_shape items others (Json.array.inj hshape) hleaves)
      | null | bool _ | integer _ | double _ | string _ | object _ => cases hshape
  | .object members, v, hshape, hleaves => by
      cases v with
      | object others =>
          exact congrArg Json.object
            (members_eq_of_shape members others (Json.object.inj hshape) hleaves)
      | null | bool _ | integer _ | double _ | string _ | array _ => cases hshape

theorem items_eq_of_shape :
    ∀ us vs : List Json, mapItems (fun _ => "") us = mapItems (fun _ => "") vs →
      leavesOfItems us = leavesOfItems vs → us = vs
  | [], [], _, _ => rfl
  | [], _ :: _, hshape, _ | _ :: _, [], hshape, _ => by cases hshape
  | u :: us, v :: vs, hshape, hleaves => by
      rw [mapItems, mapItems, List.cons.injEq] at hshape
      rw [leavesOfItems, leavesOfItems] at hleaves
      obtain ⟨hfirst, hrest⟩ := List.append_inj hleaves (length_leaves_of_shape hshape.1)
      rw [eq_of_shape_of_leaves u v hshape.1 hfirst, items_eq_of_shape us vs hshape.2 hrest]

theorem members_eq_of_shape :
    ∀ us vs : List (String × Json), mapMembers (fun _ => "") us = mapMembers (fun _ => "") vs →
      leavesOfMembers us = leavesOfMembers vs → us = vs
  | [], [], _, _ => rfl
  | [], _ :: _, hshape, _ | _ :: _, [], hshape, _ => by cases hshape
  | (name, u) :: us, (other, v) :: vs, hshape, hleaves => by
      rw [mapMembers, mapMembers, List.cons.injEq, Prod.mk.injEq] at hshape
      rw [leavesOfMembers, leavesOfMembers] at hleaves
      obtain ⟨hfirst, hrest⟩ := List.append_inj hleaves (length_leaves_of_shape hshape.1.2)
      rw [hshape.1.1, eq_of_shape_of_leaves u v hshape.1.2 hfirst,
        members_eq_of_shape us vs hshape.2 hrest]

end

/-! ### Slots filled -/

/-- A slot holds a string. -/
theorem exists_of_isSlot {name : String} {v : Json} (h : Injection.isSlot name v = true) :
    ∃ s, v = .string s := by
  cases v with
  | string s => exact ⟨s, rfl⟩
  | _ => cases h

mutual

theorem shape_fill : ∀ v : Json, (v.fill key).shape = v.shape
  | .null | .bool _ | .integer _ | .double _ | .string _ => rfl
  | .array items => congrArg Json.array (shape_fillItems items)
  | .object members => congrArg Json.object (shape_fillMembers members)

theorem shape_fillItems :
    ∀ items : List Json,
      mapItems (fun _ => "") (fillItems key items) = mapItems (fun _ => "") items
  | [] => rfl
  | v :: items => by
      have hv := shape_fill v
      rw [shape, shape] at hv
      rw [fillItems, mapItems, mapItems, hv, shape_fillItems items]

theorem shape_fillMembers :
    ∀ members : List (String × Json),
      mapMembers (fun _ => "") (fillMembers key members) = mapMembers (fun _ => "") members
  | [] => rfl
  | (name, v) :: members => by
      have hv := shape_fill v
      rw [shape, shape] at hv
      rw [fillMembers, mapMembers, mapMembers, shape_fillMembers members]
      split_ifs with hslot
      · obtain ⟨s, rfl⟩ := exists_of_isSlot hslot
        rfl
      · rw [hv]

end

mutual

/-- Without an open slot there is nothing to fill. -/
theorem fill_eq_self : ∀ v : Json, v.hasSlot = false → v.fill key = v
  | .null, _ | .bool _, _ | .integer _, _ | .double _, _ | .string _, _ => rfl
  | .array items, h => congrArg Json.array (fillItems_eq_self items h)
  | .object members, h => congrArg Json.object (fillMembers_eq_self members h)

theorem fillItems_eq_self :
    ∀ items : List Json, hasSlotItem items = false → fillItems key items = items
  | [], _ => rfl
  | v :: items, h => by
      rw [hasSlotItem, Bool.or_eq_false_iff] at h
      rw [fillItems, fill_eq_self v h.1, fillItems_eq_self items h.2]

theorem fillMembers_eq_self :
    ∀ members : List (String × Json), hasSlotMember members = false →
      fillMembers key members = members
  | [], _ => rfl
  | (name, v) :: members, h => by
      rw [hasSlotMember, Bool.or_eq_false_iff, Bool.or_eq_false_iff] at h
      rw [fillMembers, if_neg (by rw [h.1.1]; exact Bool.false_ne_true), fill_eq_self v h.1.2,
        fillMembers_eq_self members h.2]

end

/-! ### A body completed -/

variable {get : Lookup} {url : String}

theorem shape_inject (v : Json) : (v.inject get url).shape = v.shape := by
  unfold inject
  split
  · exact shape_fill v
  · rfl

/-- **Replacing references and filling slots keeps the shape.** -/
theorem shape_completed (v : Json) : ((v.substitute get).inject get url).shape = v.shape := by
  rw [shape_inject, substitute, shape_mapStrings]

end CredentialGateway.Json
