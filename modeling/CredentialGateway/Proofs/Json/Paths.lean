/-
The numbers of a text, by their places.

A path leads through positions of arrays and names of objects.  In a text an object may
have a name several times, and then the last one counts; in a value that was read each name
has one member, since the later member took the place of the earlier one.  So the path that
leads to a part of the text leads to its value, and what is printed of a value has its parts
at the same places.

Both are the same argument, about a relation between texts and values that holds of their
items and members when it holds of the whole (`StepsAgree`): then it holds along every path.
The two relations are "is read as", and "is printed as, for a value in normal form".
-/
import Mathlib
import CredentialGateway.Proofs.Json.Words

namespace CredentialGateway.Json

/-- A step into a text or a value. -/
inductive Step where
  /-- To the item at a position. -/
  | item (i : Nat)
  /-- To the member with a name. -/
  | member (name : String)

/-- The value at a path. -/
def at? : Json → List Step → Option Json
  | v, [] => some v
  | .array items, .item i :: path => items[i]?.bind fun v => v.at? path
  | .object members, .member name :: path => (members.lookup name).bind fun v => v.at? path
  | _, _ :: _ => none

namespace Written

/-- The last member with a name. -/
def lastMember? (members : List (List Piece × Written)) (name : String) : Option Written :=
  (members.reverse.find? fun m => pieceString? m.1 = some name).map Prod.snd

/-- The part of a text at a path. -/
def at? : Written → List Step → Option Written
  | w, [] => some w
  | .array items, .item i :: path => items[i]?.bind fun w => w.at? path
  | .object members, .member name :: path =>
    (lastMember? members name).bind fun w => w.at? path
  | _, _ :: _ => none

/-- A number. -/
def number? : Written → Option NumberText
  | .number n => some n
  | _ => none

/-- The number at a path. -/
def numberAt? (w : Written) (path : List Step) : Option NumberText :=
  (w.at? path).bind number?

end Written

/-- A number, as a value. -/
def number? : Json → Option Json
  | .integer n => some (.integer n)
  | .double x => some (.double x)
  | _ => none

/-- The number at a path, as a value. -/
def numberAt? (v : Json) (path : List Step) : Option Json :=
  (v.at? path).bind number?

theorem Written.at?_scalar {w : Written} {step : Step} {path : List Step}
    (harray : ∀ items, w ≠ .array items) (hobject : ∀ members, w ≠ .object members) :
    w.at? (step :: path) = none := by
  cases w with
  | array items => exact absurd rfl (harray items)
  | object members => exact absurd rfl (hobject members)
  | _ => cases step <;> rfl

theorem at?_scalar {v : Json} {step : Step} {path : List Step}
    (harray : ∀ items, v ≠ .array items) (hobject : ∀ members, v ≠ .object members) :
    v.at? (step :: path) = none := by
  cases v with
  | array items => exact absurd rfl (harray items)
  | object members => exact absurd rfl (hobject members)
  | _ => cases step <;> rfl

/-! ### Members by their names -/

theorem lookup_cons_ite (k l : String) (v : Json) (ms : List (String × Json)) :
    ((l, v) :: ms).lookup k = if k = l then some v else ms.lookup k := by
  rw [List.lookup_cons]
  by_cases h : k = l
  · rw [beq_iff_eq.mpr h, if_pos h]
  · rw [beq_eq_false_iff_ne.mpr h, if_neg h]

/-- Members that keep their names and get other values. -/
theorem lookup_map (f : String → Json → Json) (k : String) (ms : List (String × Json)) :
    (ms.map fun m => (m.1, f m.1 m.2)).lookup k = (ms.lookup k).map (f k) := by
  induction ms with
  | nil => rfl
  | cons m ms ih =>
      obtain ⟨l, v⟩ := m
      rw [List.map_cons, lookup_cons_ite, lookup_cons_ite, ih]
      by_cases hname : k = l
      · rw [if_pos hname, if_pos hname, hname, Option.map_some]
      · rw [if_neg hname, if_neg hname]

theorem lookup_insert (name : String) (value : Json) (k : String) (ms : List (String × Json)) :
    (insert name value ms).lookup k = if k = name then some value else ms.lookup k := by
  induction ms with
  | nil => exact lookup_cons_ite k name value []
  | cons head rest ih =>
      obtain ⟨l, v⟩ := head
      rw [insert]
      by_cases hlt : name < l
      · rw [if_pos hlt, lookup_cons_ite]
      · rw [if_neg hlt]
        by_cases heq : name = l
        · rw [if_pos heq, lookup_cons_ite, lookup_cons_ite, ← heq]
          by_cases hk : k = name
          · rw [if_pos hk, if_pos hk]
          · rw [if_neg hk, if_neg hk, if_neg hk]
        · rw [if_neg heq, lookup_cons_ite, lookup_cons_ite, ih]
          by_cases hk : k = name
          · rw [if_pos hk, if_pos hk, if_neg (by rwa [hk])]
          · rw [if_neg hk, if_neg hk]

/-- The member with a name is the last one that was given. -/
theorem lookup_sortMembers (name : String) (ms : List (String × Json)) :
    (sortMembers ms).lookup name = ms.reverse.lookup name := by
  induction ms using List.reverseRecOn with
  | nil => rfl
  | append_singleton ms m ih =>
      obtain ⟨k, v⟩ := m
      rw [sortMembers_concat, lookup_insert, ih, List.reverse_concat, lookup_cons_ite]

/-! ### Relations that hold along every path -/

variable {R : Written → Json → Prop}

/-- A member of a text and a member of a value with one name and related values. -/
def MemberAgrees (R : Written → Json → Prop) (m : List Piece × Written) (u : String × Json) :
    Prop :=
  pieceString? m.1 = some u.1 ∧ R m.2 u.2

/-- Whether a relation holds of the items or members, and neither of the two has any unless the
other has. -/
def StepsAgree (R : Written → Json → Prop) : Written → Json → Prop
  | .array ws, .array vs => List.Forall₂ R ws vs
  | .object ms, .object vs => ∃ us, vs = sortMembers us ∧ List.Forall₂ (MemberAgrees R) ms us
  | .array _, _ | .object _, _ | _, .array _ | _, .object _ => False
  | _, _ => True

theorem rel_getElem? {ws : List Written} {vs : List Json} (h : List.Forall₂ R ws vs) :
    ∀ i : Nat, Option.Rel R ws[i]? vs[i]? := by
  induction h with
  | nil => intro i; exact .none
  | cons head _ ih =>
      intro i
      cases i with
      | zero => exact .some head
      | succ i => exact ih i

theorem rel_find? {ms : List (List Piece × Written)} {us : List (String × Json)}
    (h : List.Forall₂ (MemberAgrees R) ms us) (name : String) :
    Option.Rel R ((ms.find? fun m => pieceString? m.1 = some name).map Prod.snd)
      (us.lookup name) := by
  induction h with
  | nil => exact .none
  | @cons m u ms us head _ ih =>
      obtain ⟨k, v⟩ := u
      obtain ⟨hname, hvalue⟩ := head
      rw [List.find?_cons, List.lookup_cons, hname]
      by_cases hk : name = k
      · subst hk
        simpa using Option.Rel.some hvalue
      · rw [beq_eq_false_iff_ne.mpr hk, decide_eq_false (by simpa using Ne.symm hk)]
        exact ih

theorem rel_lastMember? {ms : List (List Piece × Written)} {us : List (String × Json)}
    (h : List.Forall₂ (MemberAgrees R) ms us) (name : String) :
    Option.Rel R (Written.lastMember? ms name) ((sortMembers us).lookup name) := by
  rw [lookup_sortMembers]
  exact rel_find? (List.forall₂_reverse_iff.mpr h) name

theorem rel_bind {α β γ δ : Type} {P : α → β → Prop} {Q : γ → δ → Prop} {a : Option α}
    {b : Option β} {f : α → Option γ} {g : β → Option δ} (h : Option.Rel P a b)
    (hfg : ∀ x y, P x y → Option.Rel Q (f x) (g y)) : Option.Rel Q (a.bind f) (b.bind g) := by
  cases h with
  | none => exact .none
  | some h => exact hfg _ _ h

theorem rel_imp {α β : Type} {P Q : α → β → Prop} {a : Option α} {b : Option β}
    (h : Option.Rel P a b) (hPQ : ∀ x y, P x y → Q x y) : Option.Rel Q a b := by
  cases h with
  | none => exact .none
  | some h => exact .some (hPQ _ _ h)

/-- **A relation that agrees with every step holds along every path.** -/
theorem rel_at? (hR : ∀ w v, R w v → StepsAgree R w v) :
    ∀ (path : List Step) {w : Written} {v : Json}, R w v →
      Option.Rel R (w.at? path) (v.at? path) := by
  intro path
  induction path with
  | nil =>
      intro w v h
      rw [Written.at?, at?]
      exact .some h
  | cons step path ih =>
      intro w v h
      have hsteps := hR w v h
      unfold StepsAgree at hsteps
      have hnext : ∀ w v, R w v → Option.Rel R (w.at? path) (v.at? path) := fun _ _ h => ih h
      split at hsteps
      · rename_i ws vs
        cases step with
        | item i => exact rel_bind (rel_getElem? hsteps i) hnext
        | member name => exact .none
      · rename_i ms vs
        obtain ⟨us, rfl, hus⟩ := hsteps
        cases step with
        | item i => exact .none
        | member name => exact rel_bind (rel_lastMember? hus name) hnext
      · cases hsteps
      · cases hsteps
      · cases hsteps
      · cases hsteps
      · rename_i hwarray hwobject hvarray hvobject _ _
        rw [Written.at?_scalar hwarray hwobject, at?_scalar hvarray hvobject]
        exact .none

/-! ### Read values -/

theorem forall₂_itemsOf? {depth : Nat} :
    ∀ {ws : List Written} {vs : List Json}, itemsOf? depth ws = some vs →
      List.Forall₂ (fun w v => ofWritten? depth w = some v) ws vs := by
  intro ws
  induction ws with
  | nil =>
      intro vs h
      rw [itemsOf?] at h
      cases h
      exact .nil
  | cons w ws ih =>
      intro vs h
      rw [itemsOf?] at h
      split at h
      · rename_i v vs hv hvs
        cases h
        exact .cons hv (ih hvs)
      · cases h

theorem forall₂_membersOf? {depth : Nat} :
    ∀ {ms : List (List Piece × Written)} {us : List (String × Json)},
      membersOf? depth ms = some us →
      List.Forall₂ (MemberAgrees fun w v => ofWritten? depth w = some v) ms us := by
  intro ms
  induction ms with
  | nil =>
      intro us h
      rw [membersOf?] at h
      cases h
      exact .nil
  | cons m ms ih =>
      intro us h
      obtain ⟨ps, w⟩ := m
      rw [membersOf?] at h
      split at h
      · rename_i name v us hname hv hus
        cases h
        exact .cons ⟨hname, hv⟩ (ih hus)
      · cases h

theorem number?_of_ofNumber? {n : NumberText} {v : Json} (h : ofNumber? n = some v) :
    v.number? = some v := by
  unfold ofNumber? at h
  split at h
  · cases h
    rfl
  · obtain ⟨x, -, rfl⟩ := Option.map_eq_some_iff.mp h
    rfl

/-- A text and the value that it is read as, nested up to some depth. -/
def ReadAs (w : Written) (v : Json) : Prop :=
  ∃ depth, ofWritten? depth w = some v

/-- Reading goes item by item and member by member. -/
theorem stepsAgree_readAs (w : Written) (v : Json) (h : ReadAs w v) : StepsAgree ReadAs w v := by
  obtain ⟨depth, h⟩ := h
  match depth, w, h with
  | _, .null, h | _, .bool _, h =>
      rw [ofWritten?] at h
      cases h
      trivial
  | _, .number n, h =>
      rw [ofWritten?] at h
      have hnumber := number?_of_ofNumber? h
      cases v with
      | array _ | object _ => cases hnumber
      | _ => trivial
  | _, .string _, h =>
      rw [ofWritten?] at h
      obtain ⟨s, -, rfl⟩ := Option.map_eq_some_iff.mp h
      trivial
  | depth + 1, .array items, h =>
      rw [ofWritten?] at h
      obtain ⟨vs, hvs, rfl⟩ := Option.map_eq_some_iff.mp h
      exact (forall₂_itemsOf? hvs).imp fun _ _ h => ⟨depth, h⟩
  | depth + 1, .object members, h =>
      rw [ofWritten?] at h
      obtain ⟨us, hus, rfl⟩ := Option.map_eq_some_iff.mp h
      exact ⟨us, rfl, (forall₂_membersOf? hus).imp fun _ _ h => ⟨h.1, depth, h.2⟩⟩

/-! ### Printed values -/

/-- A normal value and what is printed of it. -/
def PrintedAs (kind : Json → Prop) (w : Written) (v : Json) : Prop :=
  w = written v ∧ ∃ depth, IsNormal kind depth v

variable {kind : Json → Prop}

theorem forall₂_writtenItems {depth : Nat} :
    ∀ {vs : List Json}, ItemsNormal kind depth vs →
      List.Forall₂ (PrintedAs kind) (writtenItems vs) vs
  | [], _ => .nil
  | _ :: _, h => .cons ⟨rfl, depth, h.1⟩ (forall₂_writtenItems h.2)

theorem forall₂_writtenMembers {depth : Nat} :
    ∀ {us : List (String × Json)}, MembersNormal kind depth us →
      List.Forall₂ (MemberAgrees (PrintedAs kind)) (writtenMembers us) us
  | [], _ => .nil
  | (name, _) :: _, h =>
      .cons ⟨pieceString?_stringPieces name, rfl, depth, h.1⟩ (forall₂_writtenMembers h.2)

/-- Printing goes item by item and member by member. -/
theorem stepsAgree_printedAs (w : Written) (v : Json) (h : PrintedAs kind w v) :
    StepsAgree (PrintedAs kind) w v := by
  obtain ⟨rfl, depth, h⟩ := h
  match depth, v, h with
  | _, .null, _ | _, .bool _, _ | _, .integer _, _ | _, .double _, _ | _, .string _, _ => trivial
  | depth + 1, .array items, h => exact forall₂_writtenItems h
  | depth + 1, .object members, h =>
      exact ⟨members, (sortMembers_eq_self h.1).symm, forall₂_writtenMembers h.2⟩

/-! ### Places and shapes -/

theorem mapItems_eq_map (f : String → String) (items : List Json) :
    mapItems f items = items.map (mapStrings f) := by
  induction items with
  | nil => rfl
  | cons v items ih => rw [mapItems, List.map_cons, ih]

theorem lookup_mapMembers (f : String → String) (name : String) (members : List (String × Json)) :
    (mapMembers f members).lookup name = (members.lookup name).map (mapStrings f) := by
  induction members with
  | nil => rfl
  | cons m members ih =>
      rw [mapMembers, lookup_cons_ite, lookup_cons_ite, ih]
      split_ifs <;> rfl

/-- A part of a value with its strings replaced is the part with its strings replaced. -/
theorem at?_mapStrings (f : String → String) :
    ∀ (path : List Step) (v : Json),
      (v.mapStrings f).at? path = (v.at? path).map (mapStrings f) := by
  intro path
  induction path with
  | nil =>
      intro v
      rw [at?, at?, Option.map_some]
  | cons step path ih =>
      intro v
      cases v with
      | array items =>
          cases step with
          | item i =>
              rw [mapStrings, mapItems_eq_map, at?, at?, List.getElem?_map, Option.bind_map,
                Option.map_bind]
              exact Option.bind_congr fun u _ => ih u
          | member name => rfl
      | object members =>
          cases step with
          | item i => rfl
          | member name =>
              rw [mapStrings, at?, at?, lookup_mapMembers, Option.bind_map, Option.map_bind]
              exact Option.bind_congr fun u _ => ih u
      | _ => cases step <;> rfl

theorem number?_shape (v : Json) : v.shape.number? = v.number? := by
  cases v <;> rfl

/-- The number at a path is a matter of the shape. -/
theorem numberAt?_of_shape {u v : Json} (hshape : u.shape = v.shape) (path : List Step) :
    u.numberAt? path = v.numberAt? path := by
  have hall : ∀ v : Json, v.shape.numberAt? path = v.numberAt? path := by
    intro v
    rw [numberAt?, shape, at?_mapStrings, Option.bind_map]
    exact Option.bind_congr fun u _ => number?_shape u
  rw [← hall u, ← hall v, hshape]

/-! ### The numbers of a text and of what is printed -/

/-- A number as it was written and as it is printed after it was read. -/
def Reprinted (n m : NumberText) : Prop :=
  ∃ x, ofNumber? n = some x ∧ written x = .number m

theorem rel_number?_readAs (w : Written) (v : Json) (h : ReadAs w v) :
    Option.Rel (fun n x => ofNumber? n = some x) w.number? v.number? := by
  obtain ⟨depth, h⟩ := h
  cases w with
  | number n =>
      rw [ofWritten?] at h
      rw [number?_of_ofNumber? h]
      exact .some h
  | null | bool _ =>
      rw [ofWritten?] at h
      cases h
      exact .none
  | string _ =>
      rw [ofWritten?] at h
      obtain ⟨s, -, rfl⟩ := Option.map_eq_some_iff.mp h
      exact .none
  | array _ | object _ =>
      cases depth with
      | zero => cases h
      | succ depth =>
          rw [ofWritten?] at h
          obtain ⟨us, -, rfl⟩ := Option.map_eq_some_iff.mp h
          exact .none

theorem rel_number?_printedAs (w : Written) (v : Json) (h : PrintedAs kind w v) :
    Option.Rel (fun m x => written x = .number m) w.number? v.number? := by
  obtain ⟨rfl, -⟩ := h
  cases v with
  | integer n => exact .some rfl
  | double x => exact .some rfl
  | _ => exact .none

/-- **The numbers of a text stand at the same places of what is printed of a value with the
shape of the text's value, each as it is printed after it was read.** -/
theorem rel_numberAt?_written {w : Written} {u v : Json} {depth : Nat}
    (hread : ofWritten? depth w = some v) (hshape : u.shape = v.shape)
    (hnormal : IsNormal kind depth u) (path : List Step) :
    Option.Rel Reprinted (w.numberAt? path) ((written u).numberAt? path) := by
  have hin := rel_bind (rel_at? stepsAgree_readAs path ⟨depth, hread⟩) rel_number?_readAs
  have hprinted : PrintedAs kind (written u) u := ⟨rfl, depth, hnormal⟩
  have hout := rel_bind (rel_at? stepsAgree_printedAs path hprinted) rel_number?_printedAs
  rw [← numberAt?, ← Written.numberAt?] at hin hout
  rw [numberAt?_of_shape hshape] at hout
  generalize w.numberAt? path = n at hin
  generalize v.numberAt? path = x at hin hout
  generalize (written u).numberAt? path = m at hout
  cases hin with
  | none =>
      cases hout
      exact .none
  | some hin =>
      cases hout with
      | some hout => exact .some ⟨_, hin, hout⟩

end CredentialGateway.Json
