/-
What filling the open slots of a body changes.

A slot is a place, not a text: a string is in one if it is the value of a member and the
name of that member speaks of a credential.  So the strings of a value are listed here
with the name of the member that each of them is the value of, if it is one's; a string
among the items of an array has none, whatever the name of the array is.  Filling keeps
the shape of a value and puts the key into the listed strings that are open slots.
Together that says all of it: a shape and a list of strings make one value.

Filling and asking for open slots can be done in one walk that carries the answer so far
along (`fillWalk`).  It stops at a slot that it fills and goes into everything else.
-/
import Mathlib
import CredentialGateway.Proofs.Json.Paths

namespace CredentialGateway

namespace Injection

/-! ### Names and texts -/

/-- Whether a name speaks of a credential: in lower case one of the marking words occurs in it. -/
def SpeaksOfCredential (name : String) : Prop :=
  ∃ word ∈ markers, word.toList <:+: Text.lower name.toList

/-- Whether a text leaves its slot open: it is empty, begins with `env:` or holds a `$`. -/
def LeavesOpen (text : String) : Prop :=
  text = "" ∨ (∃ rest, text = "env:" ++ rest) ∨ '$' ∈ text.toList

theorem isCredentialName_iff {name : String} :
    isCredentialName name = true ↔ SpeaksOfCredential name := by
  simp only [isCredentialName, List.any_eq_true, Text.occursIn_iff]
  exact Iff.rfl

theorem isOpen_iff {text : String} : isOpen text = true ↔ LeavesOpen text := by
  have henv : Substitution.envStart.isPrefixOf text.toList = true ↔ ∃ rest, text = "env:" ++ rest := by
    have hstart : Substitution.envStart = "env:".toList := rfl
    rw [List.isPrefixOf_iff_prefix, hstart]
    constructor
    · rintro ⟨rest, hrest⟩
      exact ⟨String.ofList rest, by rw [← String.toList_inj, ← hrest]; simp⟩
    · rintro ⟨rest, rfl⟩
      exact ⟨rest.toList, by rw [String.toList_append]⟩
  simp only [isOpen, Bool.or_eq_true, henv, String.isEmpty_iff, List.contains_iff_mem, or_assoc]
  exact Iff.rfl

end Injection

namespace Json

open Injection

variable {key : String}

/-! ### Strings with the members that hold them -/

/-- A string of a value, and the name of the member that it is the value of, if it is one's. -/
structure Spot where
  /-- The name of the member. -/
  owner : Option String
  /-- The string. -/
  text : String

mutual

/-- The strings of the value of a member, or of no member. -/
def spotsUnder (owner : Option String) : Json → List Spot
  | .string s => [⟨owner, s⟩]
  | .array items => spotsOfItems items
  | .object members => spotsOfMembers members
  | _ => []

/-- The strings of an array's items. -/
def spotsOfItems : List Json → List Spot
  | [] => []
  | v :: vs => spotsUnder none v ++ spotsOfItems vs

/-- The strings of an object's members. -/
def spotsOfMembers : List (String × Json) → List Spot
  | [] => []
  | (name, v) :: ms => spotsUnder (some name) v ++ spotsOfMembers ms

end

/-- The strings of a value in their order, each with the member that it is the value of. -/
def spots (v : Json) : List Spot :=
  v.spotsUnder none

mutual

/-- Without the members these are the strings of the value. -/
theorem map_text_spotsUnder (owner : Option String) :
    ∀ v : Json, (v.spotsUnder owner).map Spot.text = v.leaves
  | .null | .bool _ | .integer _ | .double _ | .string _ => rfl
  | .array items => map_text_spotsOfItems items
  | .object members => map_text_spotsOfMembers members

theorem map_text_spotsOfItems :
    ∀ items : List Json, (spotsOfItems items).map Spot.text = leavesOfItems items
  | [] => rfl
  | v :: items => by
      rw [spotsOfItems, leavesOfItems, List.map_append, map_text_spotsUnder none v,
        map_text_spotsOfItems items]

theorem map_text_spotsOfMembers :
    ∀ members : List (String × Json),
      (spotsOfMembers members).map Spot.text = leavesOfMembers members
  | [] => rfl
  | (name, v) :: members => by
      rw [spotsOfMembers, leavesOfMembers, List.map_append, map_text_spotsUnder (some name) v,
        map_text_spotsOfMembers members]

end

/-- **A value is its shape and its strings in their places.** -/
theorem eq_of_shape_of_spots {u v : Json} (hshape : u.shape = v.shape) (hspots : u.spots = v.spots) :
    u = v := by
  refine eq_of_shape_of_leaves u v hshape ?_
  rw [← map_text_spotsUnder none u, ← map_text_spotsUnder none v]
  exact congrArg (List.map Spot.text) hspots

/-! ### Slots -/

/-- Whether a string is an open slot: it is the value of a member whose name speaks of a credential,
and leaves the slot open. -/
def Spot.IsSlot (spot : Spot) : Prop :=
  ∃ name, spot.owner = some name ∧ SpeaksOfCredential name ∧ LeavesOpen spot.text

/-- Whether a value is an open slot where it stands. -/
def isSlotUnder (owner : Option String) (v : Json) : Bool :=
  owner.any fun name => isSlot name v

theorem isSlotUnder_string {owner : Option String} {s : String} :
    isSlotUnder owner (.string s) = true ↔ Spot.IsSlot ⟨owner, s⟩ := by
  cases owner with
  | none => simp [isSlotUnder, Spot.IsSlot]
  | some name =>
      simp [isSlotUnder, isSlot, Spot.IsSlot, isCredentialName_iff, isOpen_iff]

instance (spot : Spot) : Decidable spot.IsSlot :=
  decidable_of_iff _ isSlotUnder_string

/-- A string with the key put in, if it is an open slot. -/
def Spot.filled (key : String) (spot : Spot) : Spot :=
  if spot.IsSlot then { spot with text := key } else spot

/-- What stands in the place of a value when slots are filled. -/
def fillUnder (key : String) (owner : Option String) (v : Json) : Json :=
  if isSlotUnder owner v then .string key else v.fill key

theorem fillItems_eq_map (items : List Json) :
    fillItems key items = items.map (fillUnder key none) := by
  induction items with
  | nil => rfl
  | cons v items ih =>
      rw [fillItems, List.map_cons, ih]
      rfl

theorem fillMembers_eq_map (members : List (String × Json)) :
    fillMembers key members = members.map fun m => (m.1, fillUnder key (some m.1) m.2) := by
  induction members with
  | nil => rfl
  | cons m members ih =>
      rw [fillMembers, List.map_cons, ih]
      rfl

/-- What is no string is filled inside, whatever member it is the value of. -/
theorem fillUnder_of_not_string {owner : Option String} {v : Json} (h : ∀ s, v ≠ .string s) :
    fillUnder key owner v = v.fill key := by
  have hslot : isSlotUnder owner v ≠ true := by
    intro hslot
    cases owner with
    | none => cases hslot
    | some name =>
        obtain ⟨s, rfl⟩ := exists_of_isSlot hslot
        exact h s rfl
  rw [fillUnder, if_neg hslot]

theorem fillUnder_string {owner : Option String} {s : String} :
    fillUnder key owner (.string s) = .string (Spot.filled key ⟨owner, s⟩).text := by
  unfold fillUnder Spot.filled
  simp only [isSlotUnder_string]
  split <;> rfl

theorem Spot.filled_eq (key : String) (spot : Spot) :
    spot.filled key = ⟨spot.owner, (spot.filled key).text⟩ := by
  unfold Spot.filled
  split <;> rfl

mutual

/-- The strings of a filled value are those of the value, filled. -/
theorem spotsUnder_fillUnder (owner : Option String) :
    ∀ v : Json, (fillUnder key owner v).spotsUnder owner = (v.spotsUnder owner).map (Spot.filled key)
  | .null | .bool _ | .integer _ | .double _ => by
      rw [fillUnder_of_not_string (by simp)]
      rfl
  | .string s => by
      rw [fillUnder_string, spotsUnder, spotsUnder, List.map_singleton,
        Spot.filled_eq key ⟨owner, s⟩]
  | .array items => by
      rw [fillUnder_of_not_string (by simp)]
      exact spotsOfItems_fillItems items
  | .object members => by
      rw [fillUnder_of_not_string (by simp)]
      exact spotsOfMembers_fillMembers members

theorem spotsOfItems_fillItems :
    ∀ items : List Json,
      spotsOfItems (fillItems key items) = (spotsOfItems items).map (Spot.filled key)
  | [] => rfl
  | v :: items => by
      rw [fillItems_eq_map, List.map_cons, ← fillItems_eq_map, spotsOfItems, spotsOfItems,
        List.map_append, spotsUnder_fillUnder none v, spotsOfItems_fillItems items]

theorem spotsOfMembers_fillMembers :
    ∀ members : List (String × Json),
      spotsOfMembers (fillMembers key members) = (spotsOfMembers members).map (Spot.filled key)
  | [] => rfl
  | (name, v) :: members => by
      rw [fillMembers_eq_map, List.map_cons, ← fillMembers_eq_map, spotsOfMembers, spotsOfMembers,
        List.map_append, spotsUnder_fillUnder (some name) v, spotsOfMembers_fillMembers members]

end

theorem spots_fill (v : Json) : (v.fill key).spots = v.spots.map (Spot.filled key) :=
  spotsUnder_fillUnder none v

mutual

/-- There is an open slot if one of the strings is one. -/
theorem hasSlotUnder_eq (owner : Option String) :
    ∀ v : Json, (isSlotUnder owner v || v.hasSlot) =
      (v.spotsUnder owner).any fun spot => decide spot.IsSlot
  | .null | .bool _ | .integer _ | .double _ => by
      cases owner <;> rfl
  | .string s => by
      have hslot : (Json.string s).hasSlot = false := rfl
      rw [hslot, Bool.or_false, spotsUnder, Bool.eq_iff_iff, isSlotUnder_string]
      simp
  | .array items => by
      have hslot : isSlotUnder owner (.array items) = false := by cases owner <;> rfl
      rw [hslot, Bool.false_or, hasSlot, spotsUnder, hasSlotItem_eq items]
  | .object members => by
      have hslot : isSlotUnder owner (.object members) = false := by cases owner <;> rfl
      rw [hslot, Bool.false_or, hasSlot, spotsUnder, hasSlotMember_eq members]

theorem hasSlotItem_eq :
    ∀ items : List Json,
      hasSlotItem items = (spotsOfItems items).any fun spot => decide spot.IsSlot
  | [] => rfl
  | v :: items => by
      rw [hasSlotItem, spotsOfItems, List.any_append, ← hasSlotUnder_eq none v,
        ← hasSlotItem_eq items]
      rfl

theorem hasSlotMember_eq :
    ∀ members : List (String × Json),
      hasSlotMember members = (spotsOfMembers members).any fun spot => decide spot.IsSlot
  | [] => rfl
  | (name, v) :: members => by
      rw [hasSlotMember, spotsOfMembers, List.any_append, ← hasSlotUnder_eq (some name) v,
        ← hasSlotMember_eq members]
      rfl

end

/-- There is an open slot in a value if one of its strings is one. -/
theorem hasSlot_eq_true_iff {v : Json} : v.hasSlot = true ↔ ∃ spot ∈ v.spots, spot.IsSlot := by
  have heq := hasSlotUnder_eq none v
  have hroot : isSlotUnder none v = false := rfl
  rw [hroot, Bool.false_or] at heq
  rw [heq, List.any_eq_true, spots]
  simp only [decide_eq_true_eq]

/-! ### Filling once more -/

/-- A filled string is open again if it was open and the key leaves it open. -/
theorem Spot.isSlot_filled {spot : Spot} :
    (spot.filled key).IsSlot ↔ spot.IsSlot ∧ LeavesOpen key := by
  unfold Spot.filled
  split
  · rename_i hslot
    obtain ⟨name, howner, hname, -⟩ := id hslot
    constructor
    · rintro ⟨_, _, _, hopen⟩
      exact ⟨hslot, hopen⟩
    · rintro ⟨-, hopen⟩
      exact ⟨name, howner, hname, hopen⟩
  · rename_i hslot
    exact iff_of_false hslot fun h => hslot h.1

theorem Spot.filled_filled (spot : Spot) : (spot.filled key).filled key = spot.filled key := by
  conv_lhs => rw [Spot.filled]
  split
  · rename_i hslot
    rw [Spot.filled, if_pos (Spot.isSlot_filled.mp hslot).1]
  · rfl

/-- **A second filling changes nothing.** -/
theorem fill_fill (v : Json) : (v.fill key).fill key = v.fill key := by
  refine eq_of_shape_of_spots (shape_fill (v.fill key)) ?_
  rw [spots_fill, spots_fill, List.map_map]
  exact List.map_congr_left fun spot _ => spot.filled_filled

/-- There is an open slot after filling if there was one and the key leaves it open. -/
theorem hasSlot_fill {v : Json} :
    (v.fill key).hasSlot = true ↔ v.hasSlot = true ∧ LeavesOpen key := by
  rw [hasSlot_eq_true_iff, hasSlot_eq_true_iff, spots_fill]
  constructor
  · rintro ⟨_, hmem, hslot⟩
    obtain ⟨spot, hspot, rfl⟩ := List.mem_map.mp hmem
    obtain ⟨hslot, hopen⟩ := Spot.isSlot_filled.mp hslot
    exact ⟨⟨spot, hspot, hslot⟩, hopen⟩
  · rintro ⟨⟨spot, hspot, hslot⟩, hopen⟩
    exact ⟨_, List.mem_map_of_mem hspot, Spot.isSlot_filled.mpr ⟨hslot, hopen⟩⟩

/-! ### Places -/

/-- The member that a step leads to the value of. -/
def Step.owner? : Step → Option String
  | .item _ => none
  | .member name => some name

/-- The member that a path leads to the value of; the empty path stays where it is. -/
def ownerAt (owner : Option String) (path : List Step) : Option String :=
  path.foldl (fun _ step => step.owner?) owner

theorem ownerAt_eq_some_iff {path : List Step} {name : String} :
    ownerAt none path = some name ↔ ∃ front, path = front ++ [.member name] := by
  constructor
  · intro h
    rcases List.eq_nil_or_concat path with rfl | ⟨front, step, rfl⟩
    · cases h
    · rw [List.concat_eq_append, ownerAt, List.foldl_append] at h
      cases step with
      | item i => cases h
      | member other =>
          obtain rfl : other = name := Option.some_inj.mp h
          exact ⟨front, List.concat_eq_append⟩
  · rintro ⟨front, rfl⟩
    rw [ownerAt, List.foldl_append]
    rfl

/-- Whether a string is an open slot at its place: the path to it ends at a member whose name speaks
of a credential, and it leaves the slot open. -/
def OpenAt (path : List Step) (text : String) : Prop :=
  ∃ front name, path = front ++ [.member name] ∧ SpeaksOfCredential name ∧ LeavesOpen text

theorem isSlot_ownerAt_iff {path : List Step} {text : String} :
    Spot.IsSlot ⟨ownerAt none path, text⟩ ↔ OpenAt path text := by
  constructor
  · rintro ⟨name, howner, hname, hopen⟩
    obtain ⟨front, hpath⟩ := ownerAt_eq_some_iff.mp howner
    exact ⟨front, name, hpath, hname, hopen⟩
  · rintro ⟨front, name, hpath, hname, hopen⟩
    exact ⟨name, ownerAt_eq_some_iff.mpr ⟨front, hpath⟩, hname, hopen⟩

theorem lookup_fillMembers (name : String) (members : List (String × Json)) :
    (fillMembers key members).lookup name =
      (members.lookup name).map (fillUnder key (some name)) := by
  rw [fillMembers_eq_map]
  exact lookup_map (fun other => fillUnder key (some other)) name members

/-- A part of a filled value is the part of the value, filled where it stands. -/
theorem at?_fillUnder :
    ∀ (path : List Step) (owner : Option String) (v : Json),
      (fillUnder key owner v).at? path = (v.at? path).map (fillUnder key (ownerAt owner path)) := by
  intro path
  induction path with
  | nil =>
      intro owner v
      rw [at?, at?, Option.map_some]
      rfl
  | cons step path ih =>
      intro owner v
      cases v with
      | array items =>
          rw [fillUnder_of_not_string (by simp)]
          cases step with
          | item i =>
              rw [fill, fillItems_eq_map, at?, at?, List.getElem?_map, Option.bind_map,
                Option.map_bind]
              exact Option.bind_congr fun u _ => ih none u
          | member name => rfl
      | object members =>
          rw [fillUnder_of_not_string (by simp)]
          cases step with
          | item i => rfl
          | member name =>
              rw [fill, at?, at?, lookup_fillMembers, Option.bind_map, Option.map_bind]
              exact Option.bind_congr fun u _ => ih (some name) u
      | string s =>
          rw [fillUnder_string]
          cases step <;> rfl
      | _ =>
          rw [fillUnder_of_not_string (by simp)]
          cases step <;> rfl

/-- The strings of a filled value stand where strings stood: the key in the open slots, and the
string that was there everywhere else. -/
theorem at?_fill_eq_string_iff {x : Json} {path : List Step} {r : String} :
    (x.fill key).at? path = some (.string r) ↔
      ∃ t, x.at? path = some (.string t) ∧
        (OpenAt path t ∧ r = key ∨ ¬ OpenAt path t ∧ r = t) := by
  have hpath : (x.fill key).at? path = (x.at? path).map (fillUnder key (ownerAt none path)) :=
    at?_fillUnder path none x
  rw [hpath, Option.map_eq_some_iff]
  constructor
  · rintro ⟨v, hv, hstring⟩
    cases v with
    | string t =>
        refine ⟨t, hv, ?_⟩
        rw [fillUnder_string] at hstring
        rw [← Json.string.inj hstring, ← isSlot_ownerAt_iff, Spot.filled]
        split
        · rename_i hslot
          exact .inl ⟨hslot, rfl⟩
        · rename_i hslot
          exact .inr ⟨hslot, rfl⟩
    | null | bool _ | integer _ | double _ | array _ | object _ =>
        rw [fillUnder_of_not_string (by simp)] at hstring
        cases hstring
  · rintro ⟨t, ht, hcases⟩
    refine ⟨_, ht, ?_⟩
    rw [fillUnder_string, Spot.filled]
    rcases hcases with ⟨hopen, rfl⟩ | ⟨hopen, rfl⟩
    · rw [if_pos (isSlot_ownerAt_iff.mpr hopen)]
    · rw [if_neg (fun hslot => hopen (isSlot_ownerAt_iff.mp hslot))]

/-! ### One walk -/

mutual

/-- Fill the open slots of a value, and note whether there was one. -/
def fillWalk (key : String) : Json → Json × Bool
  | .array items =>
    let (items, changed) := fillWalkItems key false items
    (.array items, changed)
  | .object members =>
    let (members, changed) := fillWalkMembers key false members
    (.object members, changed)
  | other => (other, false)

/-- Fill the open slots of items, and note whether there was one there or before. -/
def fillWalkItems (key : String) (changed : Bool) : List Json → List Json × Bool
  | [] => ([], changed)
  | v :: vs =>
    let (v, here) := fillWalk key v
    let (vs, changed) := fillWalkItems key (here || changed) vs
    (v :: vs, changed)

/-- Fill the open slots of members, and note whether there was one there or before.  A slot that is
filled is not gone into. -/
def fillWalkMembers (key : String) (changed : Bool) :
    List (String × Json) → List (String × Json) × Bool
  | [] => ([], changed)
  | (name, v) :: ms =>
    if isSlot name v then
      let (ms, changed) := fillWalkMembers key true ms
      ((name, .string key) :: ms, changed)
    else
      let (v, here) := fillWalk key v
      let (ms, changed) := fillWalkMembers key (here || changed) ms
      ((name, v) :: ms, changed)

end

mutual

/-- **One walk fills and notes what two walks do.** -/
theorem fillWalk_eq : ∀ v : Json, v.fillWalk key = (v.fill key, v.hasSlot)
  | .null | .bool _ | .integer _ | .double _ | .string _ => rfl
  | .array items => by
      rw [fillWalk, fillWalkItems_eq false items, Bool.false_or]
      rfl
  | .object members => by
      rw [fillWalk, fillWalkMembers_eq false members, Bool.false_or]
      rfl

theorem fillWalkItems_eq (changed : Bool) :
    ∀ items : List Json, fillWalkItems key changed items =
      (fillItems key items, changed || hasSlotItem items)
  | [] => by rw [fillWalkItems, fillItems, hasSlotItem, Bool.or_false]
  | v :: items => by
      rw [fillWalkItems, fillWalk_eq v]
      simp only
      rw [fillWalkItems_eq _ items, fillItems, hasSlotItem, Bool.or_comm _ changed, Bool.or_assoc]

theorem fillWalkMembers_eq (changed : Bool) :
    ∀ members : List (String × Json), fillWalkMembers key changed members =
      (fillMembers key members, changed || hasSlotMember members)
  | [] => by rw [fillWalkMembers, fillMembers, hasSlotMember, Bool.or_false]
  | (name, v) :: members => by
      rw [fillWalkMembers, fillMembers, hasSlotMember]
      cases hslot : isSlot name v with
      | true =>
          simp only [if_true, fillWalkMembers_eq true members, Bool.true_or, Bool.or_true]
      | false =>
          simp only [Bool.false_eq_true, if_false, fillWalk_eq v, Bool.false_or]
          rw [fillWalkMembers_eq _ members, Bool.or_comm _ changed, Bool.or_assoc]

end

/-! ### Filling as a whole -/

/-- **Filling touches the open slots and nothing else.**  What comes out of a value is the one value
with its shape whose strings are those of the value, with the key in the open slots.  So a string
stands where a string stood, and it is the key if that one was the direct value of a member whose
name speaks of a credential and left the slot open, and otherwise the string that was there.  There
is a change exactly if there was such a slot.  A second filling changes nothing, and it finds open
slots only if there were some and the key itself leaves a slot open.  One walk through the value does
all of it. -/
theorem filling_touches_open_slots_only (key : String) (x : Json) :
    (∀ y, y = x.fill key ↔ y.shape = x.shape ∧ y.spots = x.spots.map (Spot.filled key)) ∧
    (∀ path r, (x.fill key).at? path = some (.string r) ↔
      ∃ t, x.at? path = some (.string t) ∧
        (OpenAt path t ∧ r = key ∨ ¬ OpenAt path t ∧ r = t)) ∧
    (x.hasSlot = true ↔ ∃ spot ∈ x.spots, spot.IsSlot) ∧
    (x.fill key).fill key = x.fill key ∧
    ((x.fill key).hasSlot = true ↔ x.hasSlot = true ∧ LeavesOpen key) ∧
    x.fillWalk key = (x.fill key, x.hasSlot) := by
  refine ⟨?_, fun _ _ => at?_fill_eq_string_iff, hasSlot_eq_true_iff, fill_fill x, hasSlot_fill,
    fillWalk_eq x⟩
  intro y
  constructor
  · rintro rfl
    exact ⟨shape_fill x, spots_fill x⟩
  · rintro ⟨hshape, hspots⟩
    exact eq_of_shape_of_spots (hshape.trans (shape_fill x).symm) (hspots.trans (spots_fill x).symm)

end Json

end CredentialGateway
