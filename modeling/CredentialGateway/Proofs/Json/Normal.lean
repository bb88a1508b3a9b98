/-
Values in normal form, and their way through the printer and back.

A value that was read has three properties: its objects are sorted by name and have no name
twice, it is nested no deeper than the reader goes, and its numbers are numbers of some
text.  `IsNormal` says so, with the property of numbers left open; it is a matter of the
shape.  The reader makes normal values (`isNormal_of_ofWritten?`), since an insertion
keeps a list sorted; and it reads a normal value from what is printed of it, as far as its
numbers read back (`ofWritten?_written`), since sorting leaves a sorted list alone.
-/
import Mathlib
import CredentialGateway.Proofs.Json.RoundTrip
import CredentialGateway.Proofs.Json.Shape

namespace CredentialGateway.Json

/-! ### Sorted members -/

/-- Members in strictly increasing order of their names. -/
def SortedByName (ms : List (String × Json)) : Prop :=
  ms.Pairwise fun m n => m.1 < n.1

theorem mem_insert {name : String} {value : Json} {m : String × Json} :
    ∀ {ms : List (String × Json)}, m ∈ insert name value ms → m = (name, value) ∨ m ∈ ms := by
  intro ms
  induction ms with
  | nil =>
      intro h
      exact Or.inl (List.mem_singleton.mp h)
  | cons head rest ih =>
      intro h
      unfold insert at h
      split_ifs at h with hlt heq
      · exact List.mem_cons.mp h
      · exact (List.mem_cons.mp h).imp_right (List.mem_cons_of_mem _)
      · rcases List.mem_cons.mp h with rfl | h
        · exact Or.inr List.mem_cons_self
        · exact (ih h).imp_right (List.mem_cons_of_mem _)

theorem sortedByName_insert (name : String) (value : Json) :
    ∀ {ms : List (String × Json)}, SortedByName ms → SortedByName (insert name value ms) := by
  intro ms
  induction ms with
  | nil => intro _; exact List.pairwise_singleton _ _
  | cons head rest ih =>
      intro h
      obtain ⟨hhead, hrest⟩ := List.pairwise_cons.mp h
      unfold insert
      split_ifs with hlt heq
      · refine List.pairwise_cons.mpr ⟨fun m hm => ?_, h⟩
        rcases List.mem_cons.mp hm with rfl | hm
        · exact hlt
        · exact lt_trans hlt (hhead m hm)
      · refine List.pairwise_cons.mpr ⟨fun m hm => ?_, hrest⟩
        rw [heq]
        exact hhead m hm
      · refine List.pairwise_cons.mpr ⟨fun m hm => ?_, ih hrest⟩
        rcases mem_insert hm with rfl | hm
        · exact lt_of_le_of_ne (not_lt.mp hlt) (Ne.symm heq)
        · exact hhead m hm

/-- A name behind all others goes to the end. -/
theorem insert_of_lt {name : String} {value : Json} :
    ∀ {ms : List (String × Json)}, (∀ m ∈ ms, m.1 < name) →
      insert name value ms = ms ++ [(name, value)] := by
  intro ms
  induction ms with
  | nil => intro _; rfl
  | cons head rest ih =>
      intro h
      obtain ⟨hhead, hrest⟩ := List.forall_mem_cons.mp h
      unfold insert
      rw [if_neg (not_lt.mpr hhead.le), if_neg (ne_of_gt hhead), ih hrest]
      rfl

theorem sortMembers_concat (ms : List (String × Json)) (name : String) (value : Json) :
    sortMembers (ms ++ [(name, value)]) = insert name value (sortMembers ms) :=
  List.foldl_concat ..

theorem mem_sortMembers {m : String × Json} {ms : List (String × Json)} (h : m ∈ sortMembers ms) :
    m ∈ ms := by
  induction ms using List.reverseRecOn with
  | nil => exact h
  | append_singleton ms n ih =>
      rw [sortMembers_concat] at h
      rcases mem_insert h with rfl | h
      · exact List.mem_append_right _ List.mem_cons_self
      · exact List.mem_append_left _ (ih h)

theorem sortedByName_sortMembers (ms : List (String × Json)) : SortedByName (sortMembers ms) := by
  induction ms using List.reverseRecOn with
  | nil => exact List.Pairwise.nil
  | append_singleton ms n ih =>
      rw [sortMembers_concat]
      exact sortedByName_insert _ _ ih

/-- Sorting leaves sorted members alone. -/
theorem sortMembers_eq_self {ms : List (String × Json)} (h : SortedByName ms) :
    sortMembers ms = ms := by
  induction ms using List.reverseRecOn with
  | nil => rfl
  | append_singleton ms n ih =>
      obtain ⟨hms, -, hlast⟩ := List.pairwise_append.mp h
      rw [sortMembers_concat, ih hms,
        insert_of_lt fun m hm => hlast m hm n List.mem_cons_self]

/-! ### Normal values -/

mutual

/-- A value nested at most `depth` deep, with sorted objects and numbers of a kind. -/
def IsNormal (kind : Json → Prop) : (depth : Nat) → Json → Prop
  | _, .null => True
  | _, .bool _ => True
  | _, .integer n => kind (.integer n)
  | _, .double x => kind (.double x)
  | _, .string _ => True
  | 0, .array _ => False
  | depth + 1, .array items => ItemsNormal kind depth items
  | 0, .object _ => False
  | depth + 1, .object members => SortedByName members ∧ MembersNormal kind depth members

/-- The items of an array are normal. -/
def ItemsNormal (kind : Json → Prop) : (depth : Nat) → List Json → Prop
  | _, [] => True
  | depth, v :: vs => IsNormal kind depth v ∧ ItemsNormal kind depth vs

/-- The values of an object's members are normal. -/
def MembersNormal (kind : Json → Prop) : (depth : Nat) → List (String × Json) → Prop
  | _, [] => True
  | depth, (_, v) :: ms => IsNormal kind depth v ∧ MembersNormal kind depth ms

end

variable {kind : Json → Prop}

theorem itemsNormal_iff {depth : Nat} {vs : List Json} :
    ItemsNormal kind depth vs ↔ ∀ v ∈ vs, IsNormal kind depth v := by
  induction vs with
  | nil => simp [ItemsNormal]
  | cons v vs ih => rw [ItemsNormal, List.forall_mem_cons, ih]

theorem membersNormal_iff {depth : Nat} {ms : List (String × Json)} :
    MembersNormal kind depth ms ↔ ∀ m ∈ ms, IsNormal kind depth m.2 := by
  induction ms with
  | nil => simp [MembersNormal]
  | cons m ms ih => rw [MembersNormal, List.forall_mem_cons, ih]

theorem names_mapMembers (f : String → String) (ms : List (String × Json)) :
    (mapMembers f ms).map Prod.fst = ms.map Prod.fst := by
  induction ms with
  | nil => rfl
  | cons m ms ih => rw [mapMembers, List.map_cons, List.map_cons, ih]

theorem sortedByName_iff {ms : List (String × Json)} :
    SortedByName ms ↔ (ms.map Prod.fst).Pairwise (· < ·) :=
  List.pairwise_map.symm

mutual

theorem isNormal_mapStrings (f : String → String) :
    ∀ (depth : Nat) (v : Json), IsNormal kind depth (v.mapStrings f) ↔ IsNormal kind depth v
  | _, .null | _, .bool _ | _, .integer _ | _, .double _ | _, .string _ => by
      simp only [mapStrings, IsNormal]
  | 0, .array _ | 0, .object _ => by simp only [mapStrings, IsNormal]
  | depth + 1, .array items => by
      rw [mapStrings, IsNormal, IsNormal]
      exact itemsNormal_mapItems f depth items
  | depth + 1, .object members => by
      rw [mapStrings, IsNormal, IsNormal, sortedByName_iff, sortedByName_iff, names_mapMembers,
        membersNormal_mapMembers f depth members]

theorem itemsNormal_mapItems (f : String → String) :
    ∀ (depth : Nat) (items : List Json),
      ItemsNormal kind depth (mapItems f items) ↔ ItemsNormal kind depth items
  | _, [] => Iff.rfl
  | depth, v :: items => by
      rw [mapItems, ItemsNormal, ItemsNormal, isNormal_mapStrings f depth v,
        itemsNormal_mapItems f depth items]

theorem membersNormal_mapMembers (f : String → String) :
    ∀ (depth : Nat) (members : List (String × Json)),
      MembersNormal kind depth (mapMembers f members) ↔ MembersNormal kind depth members
  | _, [] => Iff.rfl
  | depth, (_, v) :: members => by
      rw [mapMembers, MembersNormal, MembersNormal, isNormal_mapStrings f depth v,
        membersNormal_mapMembers f depth members]

end

/-- Whether a value is normal is a matter of its shape. -/
theorem isNormal_of_shape {depth : Nat} {u v : Json} (hshape : u.shape = v.shape)
    (h : IsNormal kind depth v) : IsNormal kind depth u := by
  rw [← isNormal_mapStrings (fun _ => "")] at h ⊢
  rw [shape, shape] at hshape
  rwa [hshape]

/-! ### Read values are normal -/

mutual

/-- The numbers of a text. -/
def Written.numbers : Written → List NumberText
  | .number n => [n]
  | .array items => Written.numbersOfItems items
  | .object members => Written.numbersOfMembers members
  | _ => []

/-- The numbers in the items of an array. -/
def Written.numbersOfItems : List Written → List NumberText
  | [] => []
  | w :: ws => w.numbers ++ Written.numbersOfItems ws

/-- The numbers in the values of an object's members. -/
def Written.numbersOfMembers : List (List Piece × Written) → List NumberText
  | [] => []
  | (_, w) :: ms => w.numbers ++ Written.numbersOfMembers ms

end

theorem isNormal_of_ofNumber? {depth : Nat} {n : NumberText} {v : Json}
    (h : ofNumber? n = some v) : IsNormal kind depth v ↔ kind v := by
  unfold ofNumber? at h
  split at h
  · cases h
    rw [IsNormal]
  · obtain ⟨x, -, rfl⟩ := Option.map_eq_some_iff.mp h
    rw [IsNormal]

mutual

/-- **A value that was read is normal.** -/
theorem isNormal_of_ofWritten? :
    ∀ (depth : Nat) (w : Written) {v : Json}, ofWritten? depth w = some v →
      (∀ n ∈ w.numbers, ∀ x, ofNumber? n = some x → kind x) → IsNormal kind depth v
  | _, .null, _, h, _ | _, .bool _, _, h, _ => by
      rw [ofWritten?] at h
      cases h
      rw [IsNormal]
      trivial
  | _, .number n, v, h, hkind => by
      rw [ofWritten?] at h
      exact (isNormal_of_ofNumber? h).mpr (hkind n List.mem_cons_self v h)
  | _, .string _, _, h, _ => by
      rw [ofWritten?] at h
      obtain ⟨s, -, rfl⟩ := Option.map_eq_some_iff.mp h
      rw [IsNormal]
      trivial
  | depth + 1, .array items, _, h, hkind => by
      rw [ofWritten?] at h
      obtain ⟨vs, hvs, rfl⟩ := Option.map_eq_some_iff.mp h
      exact itemsNormal_of_itemsOf? depth items hvs hkind
  | depth + 1, .object members, _, h, hkind => by
      rw [ofWritten?] at h
      obtain ⟨ms, hms, rfl⟩ := Option.map_eq_some_iff.mp h
      refine ⟨sortedByName_sortMembers ms, membersNormal_iff.mpr fun m hm => ?_⟩
      have hall := membersNormal_of_membersOf? depth members hms hkind
      exact membersNormal_iff.mp hall m (mem_sortMembers hm)

theorem itemsNormal_of_itemsOf? :
    ∀ (depth : Nat) (items : List Written) {vs : List Json}, itemsOf? depth items = some vs →
      (∀ n ∈ Written.numbersOfItems items, ∀ x, ofNumber? n = some x → kind x) →
      ItemsNormal kind depth vs
  | _, [], _, h, _ => by
      rw [itemsOf?] at h
      cases h
      trivial
  | depth, w :: items, _, h, hkind => by
      rw [Written.numbersOfItems, List.forall_mem_append] at hkind
      rw [itemsOf?] at h
      split at h
      · rename_i v vs hv hvs
        cases h
        exact ⟨isNormal_of_ofWritten? depth w hv hkind.1,
          itemsNormal_of_itemsOf? depth items hvs hkind.2⟩
      · cases h

theorem membersNormal_of_membersOf? :
    ∀ (depth : Nat) (members : List (List Piece × Written)) {ms : List (String × Json)},
      membersOf? depth members = some ms →
      (∀ n ∈ Written.numbersOfMembers members, ∀ x, ofNumber? n = some x → kind x) →
      MembersNormal kind depth ms
  | _, [], _, h, _ => by
      rw [membersOf?] at h
      cases h
      trivial
  | depth, (_, w) :: members, _, h, hkind => by
      rw [Written.numbersOfMembers, List.forall_mem_append] at hkind
      rw [membersOf?] at h
      split at h
      · rename_i name v ms hname hv hms
        cases h
        exact ⟨isNormal_of_ofWritten? depth w hv hkind.1,
          membersNormal_of_membersOf? depth members hms hkind.2⟩
      · cases h

end

/-! ### Normal values are read back -/

/-- Whether a number is read from what is printed of it. -/
def Rereads (x : Json) : Prop :=
  ofWritten? 0 (written x) = some x

mutual

/-- **A normal value is what its text means**, as far as its numbers read back. -/
theorem ofWritten?_written :
    ∀ (depth : Nat) (v : Json), IsNormal Rereads depth v → ofWritten? depth (written v) = some v
  | _, .null, _ | _, .bool _, _ => by rw [written, ofWritten?]
  | _, .integer n, h => by
      rw [IsNormal, Rereads, written, ofWritten?] at h
      rw [written, ofWritten?, h]
  | _, .double x, h => by
      rw [IsNormal, Rereads, written, ofWritten?] at h
      rw [written, ofWritten?, h]
  | _, .string s, _ => by
      rw [written, ofWritten?, pieceString?_stringPieces]
      rfl
  | depth + 1, .array items, h => by
      rw [written, ofWritten?, itemsOf?_written depth items h]
      rfl
  | depth + 1, .object members, h => by
      rw [written, ofWritten?, membersOf?_written depth members h.2, Option.map_some,
        sortMembers_eq_self h.1]

theorem itemsOf?_written :
    ∀ (depth : Nat) (items : List Json), ItemsNormal Rereads depth items →
      itemsOf? depth (writtenItems items) = some items
  | _, [], _ => rfl
  | depth, v :: items, h => by
      rw [writtenItems, itemsOf?, ofWritten?_written depth v h.1,
        itemsOf?_written depth items h.2]

theorem membersOf?_written :
    ∀ (depth : Nat) (members : List (String × Json)), MembersNormal Rereads depth members →
      membersOf? depth (writtenMembers members) = some members
  | _, [], _ => rfl
  | depth, (name, v) :: members, h => by
      rw [writtenMembers, membersOf?, pieceString?_stringPieces,
        ofWritten?_written depth v h.1, membersOf?_written depth members h.2]

end

mutual

theorem isPrintable_of_isNormal (hkind : ∀ x, kind (.double x) → x.magnitude.Fits) :
    ∀ (depth : Nat) (v : Json), IsNormal kind depth v → IsPrintable v
  | _, .null, _ | _, .bool _, _ | _, .integer _, _ | _, .string _, _ => trivial
  | _, .double x, h => hkind x h
  | depth + 1, .array items, h => itemsPrintable_of_itemsNormal hkind depth items h
  | depth + 1, .object members, h => membersPrintable_of_membersNormal hkind depth members h.2

theorem itemsPrintable_of_itemsNormal (hkind : ∀ x, kind (.double x) → x.magnitude.Fits) :
    ∀ (depth : Nat) (items : List Json), ItemsNormal kind depth items → ItemsPrintable items
  | _, [], _ => trivial
  | depth, v :: items, h =>
      ⟨isPrintable_of_isNormal hkind depth v h.1,
        itemsPrintable_of_itemsNormal hkind depth items h.2⟩

theorem membersPrintable_of_membersNormal (hkind : ∀ x, kind (.double x) → x.magnitude.Fits) :
    ∀ (depth : Nat) (members : List (String × Json)),
      MembersNormal kind depth members → MembersPrintable members
  | _, [], _ => trivial
  | depth, (_, v) :: members, h =>
      ⟨isPrintable_of_isNormal hkind depth v h.1,
        membersPrintable_of_membersNormal hkind depth members h.2⟩

end

/-- **What is printed of a value with the shape of one that was read is read as its structure.** -/
theorem parse?_octets_of_shape {depth : Nat} {w : Written} {u v : Json}
    (hread : ofWritten? depth w = some v) (hshape : u.shape = v.shape) :
    Written.parse? u.octets = some (written u) := by
  have hnormal : IsNormal (fun x => ∃ n, ofNumber? n = some x) depth v :=
    isNormal_of_ofWritten? depth w hread fun n _ _ hx => ⟨n, hx⟩
  refine Written.parse?_octets_of_isPrintable ?_
  refine isPrintable_of_isNormal ?_ depth u (isNormal_of_shape hshape hnormal)
  rintro x ⟨n, hn⟩
  exact fits_of_ofNumber? hn

end CredentialGateway.Json
