/-
What a signature over a value covers.

A value is signed as its canonical text: members sorted by name at every depth, printed
without white space.  Sorting changes no part of a value, it only moves members, so values
that are the same have one canonical form, and a value that was read from a text is its own
canonical form already.  The printer writes different values differently, because what it
writes is read back.  So without doubles one text is signed for two values just if they are
the same.
-/
import Mathlib
import CredentialGateway.ContentKey
import CredentialGateway.Proofs.Json.Compact
import CredentialGateway.Proofs.Text.Order
import CredentialGateway.Server.Message

namespace CredentialGateway.Json

variable {u v : Json}

/-! ### The canonical form -/

theorem canonicalItems_eq_map (items : List Json) :
    canonicalItems items = items.map canonical := by
  induction items with
  | nil => rfl
  | cons v items ih => rw [canonicalItems, ih, List.map_cons]

theorem canonicalMembers_eq_map (members : List (String × Json)) :
    canonicalMembers members = members.map fun m => (m.1, m.2.canonical) := by
  induction members with
  | nil => rfl
  | cons m members ih => rw [canonicalMembers, ih, List.map_cons]

theorem lookup_sortMembers_of_nodup {ms : List (String × Json)}
    (hnodup : (ms.map Prod.fst).Nodup) (k : String) :
    (sortMembers ms).lookup k = ms.lookup k := by
  rw [lookup_sortMembers]
  exact (lookup_eq_of_perm (List.reverse_perm ms).symm hnodup).symm

/-- **The parts of a canonical form are the canonical forms of the parts.** -/
theorem at?_canonical :
    ∀ (path : List Step) {v : Json}, Everywhere HasDistinctNames v →
      v.canonical.at? path = (v.at? path).map canonical := by
  intro path
  induction path with
  | nil =>
      intro v _
      rw [at?, at?, Option.map_some]
  | cons step path ih =>
      intro v h
      cases v with
      | array items =>
          cases step with
          | item i =>
              rw [canonical, canonicalItems_eq_map, at?, at?, List.getElem?_map, Option.bind_map,
                Option.map_bind]
              refine Option.bind_congr fun u hu => ih ?_
              exact (everywhere_array_iff.mp h).2 u (List.mem_of_getElem? hu)
          | member name => rfl
      | object members =>
          cases step with
          | item i => rfl
          | member name =>
              have hnodup : (members.map Prod.fst).Nodup := h.self
              have hnames : ((canonicalMembers members).map Prod.fst).Nodup := by
                rwa [canonicalMembers_eq_map, List.map_map]
              rw [canonical, at?, at?, lookup_sortMembers_of_nodup hnames,
                canonicalMembers_eq_map, lookup_map fun _ => canonical, Option.bind_map,
                Option.map_bind]
              refine Option.bind_congr fun u hu => ih ?_
              exact ((everywhere_object_iff hnodup).mp h).2 _ (mem_of_lookup hu)
      | _ => cases step <;> rfl

theorem head_canonical (v : Json) : v.canonical.head = v.head := by
  cases v <;> rfl

/-- A canonical form is the same value. -/
theorem sameValue_canonical (h : Everywhere HasDistinctNames v) : SameValue v.canonical v := by
  intro path
  rw [at?_canonical path h, Option.map_map]
  exact congrArg (fun f => (v.at? path).map f) (funext head_canonical)

/-- The parts of a canonical form have the properties that canonical forms of parts have. -/
theorem everywhere_canonical {P : Json → Prop} (h : Everywhere HasDistinctNames v)
    (hP : ∀ path u, v.at? path = some u → P u.canonical) : Everywhere P v.canonical := by
  intro path u hu
  rw [at?_canonical path h] at hu
  obtain ⟨w, hw, rfl⟩ := Option.map_eq_some_iff.mp hu
  exact hP path w hw

theorem isSorted_canonical (h : Everywhere HasDistinctNames v) : IsSorted v.canonical := by
  refine everywhere_canonical h fun path u _ => ?_
  cases u with
  | object members => exact sortedByName_sortMembers _
  | _ => trivial

/-- A sorted value is its own canonical form. -/
theorem canonical_eq_self (h : IsSorted v) : v.canonical = v :=
  eq_of_sameValue (isSorted_canonical h.distinct) h (sameValue_canonical h.distinct)

/-- **Two values are the same just if their canonical forms are equal.** -/
theorem canonical_eq_iff (hu : Everywhere HasDistinctNames u) (hv : Everywhere HasDistinctNames v) :
    u.canonical = v.canonical ↔ SameValue u v := by
  constructor
  · intro h
    exact (sameValue_canonical hu).symm.trans (h ▸ sameValue_canonical hv)
  · intro h
    exact eq_of_sameValue (isSorted_canonical hu) (isSorted_canonical hv)
      ((sameValue_canonical hu).trans (h.trans (sameValue_canonical hv).symm))

/-! ### Values without doubles -/

/-- No double, as a property of a part. -/
def IsNoDouble : Json → Prop
  | .double _ => False
  | _ => True

/-- A value without doubles in which no object has a name twice. -/
structure IsPlain (v : Json) : Prop where
  distinct : Everywhere HasDistinctNames v
  exact : Everywhere IsNoDouble v

theorem isExact_iff : ∀ {v : Json}, Everywhere HasDistinctNames v →
    (isExact v = true ↔ Everywhere IsNoDouble v) := by
  intro v
  induction v using inductParts with
  | scalar v hv =>
      intro _
      rw [everywhere_scalar_iff hv]
      cases v with
      | array items | object members => cases hv
      | _ => simp [isExact, IsNoDouble]
  | array items ih =>
      intro h
      have hitems := (everywhere_array_iff.mp h).2
      rw [everywhere_array_iff, isExact, isExactItems_iff]
      exact ⟨fun hexact => ⟨trivial, fun v hv => (ih v hv (hitems v hv)).mp (hexact v hv)⟩,
        fun hexact v hv => (ih v hv (hitems v hv)).mpr (hexact.2 v hv)⟩
  | object members ih =>
      intro h
      have hnodup : (members.map Prod.fst).Nodup := h.self
      have hmembers := ((everywhere_object_iff hnodup).mp h).2
      rw [everywhere_object_iff hnodup, isExact, isExactMembers_iff]
      exact ⟨fun hexact => ⟨trivial, fun m hm => (ih m hm (hmembers m hm)).mp (hexact m hm)⟩,
        fun hexact m hm => (ih m hm (hmembers m hm)).mpr (hexact.2 m hm)⟩

theorem isPlain_scalar_iff (hv : IsScalar v) : IsPlain v ↔ IsNoDouble v := by
  refine ⟨fun h => h.exact.self, fun h => ⟨(everywhere_scalar_iff hv).mpr ?_,
    (everywhere_scalar_iff hv).mpr h⟩⟩
  cases v with
  | array items | object members => cases hv
  | _ => trivial

theorem isPlain_array_iff {items : List Json} :
    IsPlain (.array items) ↔ ∀ v ∈ items, IsPlain v := by
  constructor
  · intro h v hv
    exact ⟨(everywhere_array_iff.mp h.distinct).2 v hv, (everywhere_array_iff.mp h.exact).2 v hv⟩
  · intro h
    exact ⟨everywhere_array_iff.mpr ⟨trivial, fun v hv => (h v hv).distinct⟩,
      everywhere_array_iff.mpr ⟨trivial, fun v hv => (h v hv).exact⟩⟩

theorem isPlain_object_iff {members : List (String × Json)} :
    IsPlain (.object members) ↔
      (members.map Prod.fst).Nodup ∧ ∀ m ∈ members, IsPlain m.2 := by
  constructor
  · intro h
    have hnodup : (members.map Prod.fst).Nodup := h.distinct.self
    exact ⟨hnodup, fun m hm => ⟨((everywhere_object_iff hnodup).mp h.distinct).2 m hm,
      ((everywhere_object_iff hnodup).mp h.exact).2 m hm⟩⟩
  · rintro ⟨hnodup, h⟩
    exact ⟨(everywhere_object_iff hnodup).mpr ⟨hnodup, fun m hm => (h m hm).distinct⟩,
      (everywhere_object_iff hnodup).mpr ⟨trivial, fun m hm => (h m hm).exact⟩⟩

theorem IsPlain.isExact (h : IsPlain v) : Json.isExact v = true :=
  (isExact_iff h.distinct).mpr h.exact

theorem IsPlain.canonical (h : IsPlain v) : IsPlain v.canonical := by
  refine ⟨(isSorted_canonical h.distinct).distinct, everywhere_canonical h.distinct ?_⟩
  intro path u hu
  have hexact := h.exact path u hu
  cases u with
  | double x => cases hexact
  | _ => trivial

/-! ### Different values are printed differently -/

theorem integerText_injective {m n : Int} (h : integerText m = integerText n) : m = n := by
  have hvalue := congrArg NumberText.value h
  rw [value_integerText, value_integerText] at hvalue
  exact_mod_cast hvalue

theorem stringPieces_injective {s t : String} (h : stringPieces s = stringPieces t) : s = t := by
  have hread := congrArg pieceString? h
  rw [pieceString?_stringPieces, pieceString?_stringPieces] at hread
  exact Option.some.inj hread

theorem writtenItems_eq_map (items : List Json) : writtenItems items = items.map written := by
  induction items with
  | nil => rfl
  | cons v items ih => rw [writtenItems, ih, List.map_cons]

theorem writtenMembers_eq_map (members : List (String × Json)) :
    writtenMembers members = members.map fun m => (stringPieces m.1, written m.2) := by
  induction members with
  | nil => rfl
  | cons m members ih => rw [writtenMembers, ih, List.map_cons]

/-- Lists are equal if a function makes equal lists of them and only makes equal what is equal. -/
theorem eq_of_map_eq {α β : Type} {f : α → β} :
    ∀ {xs ys : List α}, (∀ x ∈ xs, ∀ y ∈ ys, f x = f y → x = y) → xs.map f = ys.map f → xs = ys
  | [], [], _, _ => rfl
  | x :: xs, y :: ys, hf, h => by
      obtain ⟨hfirst, hrest⟩ := List.cons.inj h
      rw [hf x List.mem_cons_self y List.mem_cons_self hfirst,
        eq_of_map_eq (fun a ha b hb => hf a (List.mem_cons_of_mem x ha) b
          (List.mem_cons_of_mem y hb)) hrest]

/-- **Values without doubles that are written alike are equal.** -/
theorem eq_of_written :
    ∀ {u v : Json}, isExact u = true → isExact v = true → written u = written v → u = v := by
  intro u
  induction u using inductParts with
  | scalar u hu =>
      intro v hexact hexact' h
      cases u with
      | null =>
          cases v with
          | null => rfl
          | _ => cases h
      | bool b =>
          cases v with
          | bool c => exact congrArg Json.bool (Written.bool.inj h)
          | _ => cases h
      | integer n =>
          cases v with
          | integer m => exact congrArg Json.integer (integerText_injective (Written.number.inj h))
          | double x => cases hexact'
          | _ => cases h
      | double x => cases hexact
      | string s =>
          cases v with
          | string t => exact congrArg Json.string (stringPieces_injective (Written.string.inj h))
          | _ => cases h
      | array items | object members => cases hu
  | array items ih =>
      intro v hexact hexact' h
      cases v with
      | array others =>
          rw [written, written, writtenItems_eq_map, writtenItems_eq_map] at h
          refine congrArg Json.array (eq_of_map_eq (fun x hx y hy => ?_) (Written.array.inj h))
          exact ih x hx (isExactItems_iff.mp hexact x hx) (isExactItems_iff.mp hexact' y hy)
      | _ => cases h
  | object members ih =>
      intro v hexact hexact' h
      cases v with
      | object others =>
          rw [written, written, writtenMembers_eq_map, writtenMembers_eq_map] at h
          refine congrArg Json.object (eq_of_map_eq (fun x hx y hy hxy => ?_)
            (Written.object.inj h))
          obtain ⟨hname, hvalue⟩ := Prod.mk.inj hxy
          exact Prod.ext (stringPieces_injective hname) (ih x hx (isExactMembers_iff.mp hexact x hx)
            (isExactMembers_iff.mp hexact' y hy) hvalue)
      | _ => cases h

/-- **Values without doubles that are printed alike are equal.** -/
theorem octets_injective (hu : isExact u = true) (hv : isExact v = true)
    (h : u.octets = v.octets) : u = v := by
  have hread := congrArg Written.parse? h
  rw [Written.parse?_octets hu, Written.parse?_octets hv] at hread
  exact eq_of_written hu hv (Option.some.inj hread)

theorem signedOctets_eq_iff (hu : IsPlain u) (hv : IsPlain v) :
    u.signedOctets = v.signedOctets ↔ SameValue u v := by
  rw [← canonical_eq_iff hu.distinct hv.distinct, signedOctets, signedOctets]
  exact ⟨octets_injective hu.canonical.isExact hv.canonical.isExact, congrArg octets⟩

/-! ### What is signed is read back -/

/-- A value with integers that fit a word, nested at most `depth` deep. -/
structure Fits (depth : Nat) (v : Json) : Prop where
  word : ∀ path n, v.at? path = some (.integer n) → -(2 ^ 63) ≤ n ∧ n < 2 ^ 64
  nested : ∀ path u, v.at? path = some u → ¬ IsScalar u → path.length < depth

theorem Fits.below {depth : Nat} (h : Fits (depth + 1) u) {step : Step}
    (hstep : ∀ path, u.at? (step :: path) = v.at? path) : Fits depth v :=
  ⟨fun path n hn => h.word (step :: path) n ((hstep path).trans hn),
    fun path w hw hnot => Nat.lt_of_succ_lt_succ (h.nested (step :: path) w
      ((hstep path).trans hw) hnot)⟩

theorem Fits.mono {depth more : Nat} (hle : depth ≤ more) (h : Fits depth v) : Fits more v :=
  ⟨h.word, fun path u hu hnot => (h.nested path u hu hnot).trans_le hle⟩

theorem isScalar_canonical (v : Json) : IsScalar v.canonical ↔ IsScalar v := by
  cases v <;> rfl

theorem Fits.canonical {depth : Nat} (hv : Everywhere HasDistinctNames v) (h : Fits depth v) :
    Fits depth v.canonical := by
  constructor
  · intro path n hn
    rw [at?_canonical path hv] at hn
    obtain ⟨w, hw, hcanonical⟩ := Option.map_eq_some_iff.mp hn
    cases w with
    | integer m =>
        cases hcanonical
        exact h.word path n hw
    | _ => cases hcanonical
  · intro path u hu hnot
    rw [at?_canonical path hv] at hu
    obtain ⟨w, hw, rfl⟩ := Option.map_eq_some_iff.mp hu
    exact h.nested path w hw (mt (isScalar_canonical w).mpr hnot)

/-- A normal value fits, if the kind of its numbers is one of words. -/
theorem fits_of_isNormal {kind : Json → Prop} {depth : Nat} (h : IsNormal kind depth v)
    (hword : ∀ n, kind (.integer n) → -(2 ^ 63) ≤ n ∧ n < 2 ^ 64) : Fits depth v := by
  constructor
  · intro path n hn
    obtain ⟨rest, -, hrest⟩ := isNormal_at? path h hn
    rw [IsNormal] at hrest
    exact hword n hrest
  · intro path u hu hnot
    obtain ⟨rest, rfl, hrest⟩ := isNormal_at? path h hu
    match rest, u, hrest with
    | rest + 1, _, _ => omega
    | 0, .null, _ | 0, .bool _, _ | 0, .integer _, _ | 0, .double _, _ | 0, .string _, _ =>
        exact absurd trivial hnot

/-- A sorted value that fits is in normal form. -/
theorem isNormal_of_fits : ∀ {v : Json} {depth : Nat}, IsPlain v → IsSorted v → Fits depth v →
    IsNormal Rereads depth v := by
  intro v
  induction v using inductParts with
  | scalar v hv =>
      intro depth hplain _ hfits
      cases v with
      | integer n =>
          obtain ⟨hlo, hhi⟩ := hfits.word [] n rfl
          rw [IsNormal]
          exact rereads_integer hlo hhi
      | double x => cases hplain.exact.self
      | array items | object members => cases hv
      | _ =>
          rw [IsNormal]
          trivial
  | array items ih =>
      intro depth hplain hsorted hfits
      obtain ⟨depth, rfl⟩ := Nat.exists_eq_succ_of_ne_zero
        (hfits.nested [] _ rfl id).ne'
      refine itemsNormal_iff.mpr fun v hv => ?_
      obtain ⟨i, hi⟩ := List.mem_iff_getElem?.mp hv
      have hat : ∀ path, (Json.array items).at? (.item i :: path) = v.at? path := fun path => by
        rw [at?, hi, Option.bind_some]
      exact ih v hv (isPlain_array_iff.mp hplain v hv) ((everywhere_array_iff.mp hsorted).2 v hv)
        (hfits.below hat)
  | object members ih =>
      intro depth hplain hsorted hfits
      obtain ⟨depth, rfl⟩ := Nat.exists_eq_succ_of_ne_zero
        (hfits.nested [] _ rfl id).ne'
      have hnames : SortedByName members := hsorted.self
      refine ⟨hnames, membersNormal_iff.mpr fun m hm => ?_⟩
      have hfound := (lookup_eq_some_iff_mem hnames.nodup).mpr hm
      have hat : ∀ path, (Json.object members).at? (.member m.1 :: path) = m.2.at? path :=
        fun path => by rw [at?, hfound, Option.bind_some]
      exact ih m hm ((isPlain_object_iff.mp hplain).2 m hm)
        (((everywhere_object_iff hnames.nodup).mp hsorted).2 m hm) (hfits.below hat)

/-- **What is signed for a value is read as its canonical form.** -/
theorem parse?_signedOctets (h : IsPlain v) (hfits : Fits maxDepth v) :
    parse? v.signedOctets = some v.canonical := by
  have hnormal := isNormal_of_fits h.canonical (isSorted_canonical h.distinct)
    (hfits.canonical h.distinct)
  rw [parse?, signedOctets, Written.parse?_octets h.canonical.isExact, Option.bind_some]
  exact ofWritten?_written maxDepth _ hnormal

/-! ### The names in what is signed -/

/-- Whether the names of all objects of a text have increasing octets. -/
def Written.NamesIncrease (w : Written) : Prop :=
  ∀ path members, w.at? path = some (.object members) →
    ∃ names : List (List UInt8), (members.map fun m => pieceOctets? m.1) = names.map some ∧
      names.Pairwise (· < ·)

/-- A sorted value and what is printed of it. -/
def SortedAs (w : Written) (v : Json) : Prop :=
  w = written v ∧ IsSorted v

theorem stepsAgree_sortedAs (w : Written) (v : Json) (h : SortedAs w v) :
    StepsAgree SortedAs w v := by
  obtain ⟨rfl, h⟩ := h
  cases v with
  | array items =>
      rw [written, writtenItems_eq_map]
      refine List.forall₂_map_left_iff.mpr (List.forall₂_same.mpr fun v hv => ?_)
      exact ⟨rfl, (everywhere_array_iff.mp h).2 v hv⟩
  | object members =>
      have hnames : SortedByName members := h.self
      rw [written, writtenMembers_eq_map]
      refine ⟨members, (sortMembers_eq_self hnames).symm, ?_⟩
      refine List.forall₂_map_left_iff.mpr (List.forall₂_same.mpr fun m hm => ?_)
      exact ⟨pieceString?_stringPieces m.1, rfl,
        ((everywhere_object_iff hnames.nodup).mp h).2 m hm⟩
  | _ => trivial

/-- **The names in what is printed of a sorted value increase.** -/
theorem namesIncrease_written (h : IsSorted v) : (written v).NamesIncrease := by
  intro path members hmembers
  have hrel := rel_at? stepsAgree_sortedAs path (show SortedAs (written v) v from ⟨rfl, h⟩)
  rw [hmembers] at hrel
  generalize v.at? path = part at hrel
  cases hrel with
  | some hpart =>
      rename_i u
      obtain ⟨hwritten, hsorted⟩ := hpart
      cases u with
      | object ms =>
          have hnames : SortedByName ms := hsorted.self
          rw [written, writtenMembers_eq_map] at hwritten
          rw [Written.object.inj hwritten]
          refine ⟨ms.map fun m => Utf8.encodeString m.1, ?_, ?_⟩
          · rw [List.map_map, List.map_map]
            exact List.map_congr_left fun m _ => pieceOctets?_flatMap _
          · exact List.pairwise_map.mpr (hnames.imp Utf8.encodeString_lt_iff.mpr)
      | _ => cases hwritten

end CredentialGateway.Json
