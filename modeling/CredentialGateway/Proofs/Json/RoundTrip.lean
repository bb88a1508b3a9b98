/-
Printed values read back.

`written` says what the reader should find in the text of a value: the same tree, with
strings as their pieces, and integers and doubles as their digits.
`parse?_octets_of_isPrintable` says that it finds just that.  Doubles must fit their
format, or they may have no digits to print; a value without doubles (`isExact`) has
nothing to ask for.

The reader is driven by a count of steps, so the statement that goes through the
induction is about every count that is large enough: twice the octets of the text.  It
is also about every text behind the value, for items of an array are read one after
the other; that text only must not continue a number.  Items and members are read by
loops that start with a value, so their statements are about a first value, of which
the statement for values is assumed, and the rest of the list.
-/
import Mathlib
import CredentialGateway.Proofs.Json.Doubles
import CredentialGateway.Proofs.Json.Strings

namespace CredentialGateway.Json

mutual

/-- Whether a value holds no double. -/
def isExact : Json → Bool
  | .double _ => false
  | .array items => isExactItems items
  | .object members => isExactMembers members
  | _ => true

/-- Whether the items of an array hold no double. -/
def isExactItems : List Json → Bool
  | [] => true
  | v :: vs => isExact v && isExactItems vs

/-- Whether the members of an object hold no double. -/
def isExactMembers : List (String × Json) → Bool
  | [] => true
  | (_, v) :: ms => isExact v && isExactMembers ms

end

theorem isExactItems_iff {vs : List Json} :
    isExactItems vs = true ↔ ∀ v ∈ vs, isExact v = true := by
  induction vs with
  | nil => simp [isExactItems]
  | cons v vs ih => rw [isExactItems, Bool.and_eq_true, ih, List.forall_mem_cons]

theorem isExactMembers_iff {ms : List (String × Json)} :
    isExactMembers ms = true ↔ ∀ m ∈ ms, isExact m.2 = true := by
  induction ms with
  | nil => simp [isExactMembers]
  | cons m ms ih => rw [isExactMembers, Bool.and_eq_true, ih, List.forall_mem_cons]

mutual

/-- Whether every double of a value fits its format. -/
def IsPrintable : Json → Prop
  | .double x => x.magnitude.Fits
  | .array items => ItemsPrintable items
  | .object members => MembersPrintable members
  | _ => True

/-- Whether every double among the items of an array fits its format. -/
def ItemsPrintable : List Json → Prop
  | [] => True
  | v :: vs => IsPrintable v ∧ ItemsPrintable vs

/-- Whether every double among the members of an object fits its format. -/
def MembersPrintable : List (String × Json) → Prop
  | [] => True
  | (_, v) :: ms => IsPrintable v ∧ MembersPrintable ms

end

mutual

theorem isPrintable_of_isExact : ∀ v : Json, isExact v = true → IsPrintable v
  | .null, _ | .bool _, _ | .integer _, _ | .string _, _ => trivial
  | .array items, h => itemsPrintable_of_isExact items h
  | .object members, h => membersPrintable_of_isExact members h

theorem itemsPrintable_of_isExact :
    ∀ items : List Json, isExactItems items = true → ItemsPrintable items
  | [], _ => trivial
  | v :: items, h => by
      rw [isExactItems, Bool.and_eq_true] at h
      exact ⟨isPrintable_of_isExact v h.1, itemsPrintable_of_isExact items h.2⟩

theorem membersPrintable_of_isExact :
    ∀ members : List (String × Json), isExactMembers members = true → MembersPrintable members
  | [], _ => trivial
  | (_, v) :: members, h => by
      rw [isExactMembers, Bool.and_eq_true] at h
      exact ⟨isPrintable_of_isExact v h.1, membersPrintable_of_isExact members h.2⟩

end

mutual

/-- What the reader finds in the text of a value. -/
def written : Json → Written
  | .null => .null
  | .bool b => .bool b
  | .integer n => .number (integerText n)
  | .double x => .number (doubleText x)
  | .string s => .string (stringPieces s)
  | .array items => .array (writtenItems items)
  | .object members => .object (writtenMembers members)

/-- What the reader finds in the texts of items. -/
def writtenItems : List Json → List Written
  | [] => []
  | v :: vs => written v :: writtenItems vs

/-- What the reader finds in the texts of members. -/
def writtenMembers : List (String × Json) → List (List Piece × Written)
  | [] => []
  | (k, v) :: ms => (stringPieces k, written v) :: writtenMembers ms

end

namespace Written

/-! ### One step of the reader -/

theorem skipSpace_cons {b : UInt8} (bs : List UInt8) (h : isSpace b = false) :
    skipSpace (b :: bs) = b :: bs := by
  rw [skipSpace, List.dropWhile_cons, h]
  rfl

/-- What stands behind an item or a member ends a number. -/
theorem endsNumber_cons {b : UInt8} (bs : List UInt8)
    (h : digit? b = none ∧ b ≠ 0x2E ∧ b ≠ 0x65 ∧ b ≠ 0x45) : EndsNumber (b :: bs) := by
  intro c hc
  cases hc
  exact h

/-- The reader reads a value back, given steps enough, and leaves what stands behind it. -/
def ReadsBack (v : Json) : Prop :=
  ∀ (steps : Nat) (rest : List UInt8), 2 * (Utf8.encode v.render).length ≤ steps →
    EndsNumber rest →
    value? steps (Utf8.encode v.render ++ rest) = some (written v, rest)

/-! ### Literals, numbers and strings -/

theorem readsBack_null : ReadsBack .null := by
  intro steps rest hsteps _
  cases steps with
  | zero => exact absurd hsteps (by decide)
  | succ steps => rfl

theorem readsBack_bool (b : Bool) : ReadsBack (.bool b) := by
  intro steps rest hsteps _
  cases steps with
  | zero =>
      cases b with
      | false => exact absurd hsteps (by decide)
      | true => exact absurd hsteps (by decide)
  | succ steps =>
      cases b with
      | false => rfl
      | true => rfl

theorem ne_of_digit {b c : UInt8} (hlo : 48 ≤ b.toNat) (hhi : b.toNat ≤ 57)
    (hc : ¬ (48 ≤ c.toNat ∧ c.toNat ≤ 57)) : b ≠ c := by
  rintro rfl
  exact hc ⟨hlo, hhi⟩

theorem isSpace_of_digit {b : UInt8} (hlo : 48 ≤ b.toNat) (hhi : b.toNat ≤ 57) :
    isSpace b = false := by
  have hne : ∀ {c : UInt8}, ¬ (48 ≤ c.toNat ∧ c.toNat ≤ 57) → b ≠ c := ne_of_digit hlo hhi
  simp only [isSpace, Bool.or_eq_false_iff, beq_eq_false_iff_ne]
  exact ⟨⟨⟨hne (by decide), hne (by decide)⟩, hne (by decide)⟩, hne (by decide)⟩

/-- A value that starts with a digit is a number without sign. -/
theorem value?_digit {b : UInt8} (steps : Nat) (bs : List UInt8) (hlo : 48 ≤ b.toNat)
    (hhi : b.toNat ≤ 57) : value? (steps + 1) (b :: bs) = unsigned? false (b :: bs) := by
  have hne : ∀ c : UInt8, ¬ (48 ≤ c.toNat ∧ c.toNat ≤ 57) → b ≠ c := fun _ =>
    ne_of_digit hlo hhi
  rw [value?]
  simp only [skipSpace_cons bs (isSpace_of_digit hlo hhi)]
  rw [if_neg (hne _ (by decide)), if_neg (hne _ (by decide)), if_neg (hne _ (by decide)),
    if_neg (hne _ (by decide)), if_neg (hne _ (by decide)), if_neg (hne _ (by decide)),
    if_neg (hne _ (by decide))]

/-- A value that starts with a minus sign is a number with one. -/
theorem value?_minus (steps : Nat) (bs : List UInt8) :
    value? (steps + 1) (0x2D :: bs) = unsigned? true bs := by
  rw [value?]
  simp only [skipSpace_cons bs (show isSpace 0x2D = false from rfl)]
  rw [if_neg (by decide), if_neg (by decide), if_neg (by decide), if_pos trivial]

/-- Digits that read back behind a sign do so as a value, with a minus sign in front or
without. -/
theorem readsBack_signed {v : Json} {cs : List Char} {negative : Bool} {n : NumberText}
    (hrender : v.render = if negative then '-' :: cs else cs) (hwritten : written v = .number n)
    (hhead : ∃ b bs, Utf8.encode cs = b :: bs ∧ 48 ≤ b.toNat ∧ b.toNat ≤ 57)
    (hread : ∀ rest, EndsNumber rest →
      unsigned? negative (Utf8.encode cs ++ rest) = some (.number n, rest)) : ReadsBack v := by
  intro steps rest hsteps hrest
  obtain ⟨b, bs, hb, hlo, hhi⟩ := hhead
  have hnumber := hread rest hrest
  rw [hwritten]
  cases negative with
  | false =>
      simp only [Bool.false_eq_true, if_false] at hrender
      rw [hrender] at hsteps ⊢
      rw [hb] at hsteps hnumber ⊢
      cases steps with
      | zero => simp at hsteps
      | succ steps =>
          rw [List.cons_append] at hnumber ⊢
          rw [value?_digit steps _ hlo hhi, hnumber]
  | true =>
      simp only [if_true] at hrender
      rw [hrender, Utf8.encode_cons, show Utf8.encodeChar '-' = [0x2D] from rfl] at hsteps ⊢
      cases steps with
      | zero => simp at hsteps
      | succ steps => rw [List.append_assoc, List.singleton_append, value?_minus, hnumber]

theorem readsBack_integer (n : Int) : ReadsBack (.integer n) := by
  cases n with
  | ofNat n =>
      refine readsBack_signed ?_ rfl (encode_toDigits_head n) fun _ hrest =>
        unsigned?_toDigits hrest false n
      rfl
  | negSucc n =>
      have htext : integerText (.negSucc n) = ⟨true, digitsOf (n + 1), none, none⟩ := by
        rw [integerText, decide_eq_true (Int.negSucc_lt_zero n), Int.natAbs_negSucc]
      have hwritten : written (.integer (.negSucc n)) =
          .number ⟨true, digitsOf (n + 1), none, none⟩ := congrArg Written.number htext
      refine readsBack_signed ?_ hwritten (encode_toDigits_head (n + 1)) fun _ hrest =>
        unsigned?_toDigits hrest true (n + 1)
      rfl

theorem readsBack_double {x : Binary64} (hx : x.magnitude.Fits) : ReadsBack (.double x) := by
  have hn := wellFormed_numeral hx
  refine readsBack_signed (renderDouble_eq x) rfl (encode_chars_head hn) ?_
  intro rest hrest
  exact unsigned?_chars hn x.negative hrest

theorem encode_renderString (s : String) :
    Utf8.encode (renderString s) = 0x22 :: (Utf8.encode (s.toList.flatMap escapeChar) ++ [0x22]) := by
  rw [renderString, List.cons_append, Utf8.encode_cons, Utf8.encode_append]
  rfl

theorem readsBack_string (s : String) : ReadsBack (.string s) := by
  intro steps rest hsteps _
  rw [render, encode_renderString] at hsteps ⊢
  cases steps with
  | zero => simp at hsteps
  | succ steps =>
      rw [List.cons_append, List.append_assoc, value?]
      simp only [skipSpace_cons _ (show isSpace 0x22 = false from rfl)]
      rw [if_pos trivial, List.singleton_append, pieces?_escapeText]
      rfl

/-! ### Arrays and objects -/

/-- The reader reads a first value and the items behind it. -/
def ReadsItems (vs : List Json) : Prop :=
  ∀ v, ReadsBack v → ∀ (steps : Nat) (rest : List UInt8),
    2 * (Utf8.encode (v.render ++ renderItems vs)).length ≤ steps →
    items? steps (Utf8.encode (v.render ++ renderItems vs) ++ rest)
      = some (written v :: writtenItems vs, rest)

/-- The reader reads a first member and the members behind it. -/
def ReadsMembers (ms : List (String × Json)) : Prop :=
  ∀ k v, ReadsBack v → ∀ (steps : Nat) (rest : List UInt8),
    2 * (Utf8.encode (renderString k ++ ':' :: v.render ++ renderMembers ms)).length ≤ steps →
    members? steps (Utf8.encode (renderString k ++ ':' :: v.render ++ renderMembers ms) ++ rest)
      = some ((stringPieces k, written v) :: writtenMembers ms, rest)

theorem readsItems_nil : ReadsItems [] := by
  intro v hv steps rest hsteps
  rw [renderItems, Utf8.encode_append, List.length_append] at hsteps
  cases steps with
  | zero => exact absurd hsteps (by simp [Utf8.encode, Utf8.encodeChar])
  | succ steps =>
      rw [renderItems, Utf8.encode_append, List.append_assoc, items?,
        hv steps _ (by simp [Utf8.encode, Utf8.encodeChar] at hsteps ⊢; omega) ?_]
      · rfl
      · exact endsNumber_cons rest (by decide)

theorem readsItems_cons {w : Json} {ws : List Json} (hw : ReadsBack w) (hws : ReadsItems ws) :
    ReadsItems (w :: ws) := by
  intro v hv steps rest hsteps
  have htext : Utf8.encode (v.render ++ renderItems (w :: ws))
      = Utf8.encode v.render ++ 0x2C :: Utf8.encode (w.render ++ renderItems ws) := by
    rw [renderItems, Utf8.encode_append, List.cons_append, Utf8.encode_cons]
    rfl
  rw [htext, List.length_append, List.length_cons] at hsteps
  cases steps with
  | zero => simp at hsteps
  | succ steps =>
      rw [htext, List.append_assoc, List.cons_append, items?, hv steps _ (by omega) ?_]
      · have hstep := hws w hw steps rest (by omega)
        simp only [skipSpace_cons _ (show isSpace 0x2C = false from rfl), hstep]
        rfl
      · exact endsNumber_cons _ (by decide)

/-- Reading a member, up to what stands behind it. -/
theorem members?_step {k : String} {v : Json} {steps : Nat}
    {tail : List UInt8} (hv : ReadsBack v)
    (hsteps : 2 * (Utf8.encode v.render).length ≤ steps) (htail : EndsNumber tail) :
    members? (steps + 1) (Utf8.encode (renderString k ++ ':' :: v.render) ++ tail)
      = match skipSpace tail with
        | 0x2C :: rest => (members? steps rest).map fun (ms, rest) =>
            ((stringPieces k, written v) :: ms, rest)
        | 0x7D :: rest => some ([(stringPieces k, written v)], rest)
        | _ => none := by
  rw [Utf8.encode_append, encode_renderString, Utf8.encode_cons,
    show Utf8.encodeChar ':' = [0x3A] from rfl]
  simp only [List.cons_append, List.append_assoc, List.nil_append]
  rw [members?]
  simp only [skipSpace_cons _ (show isSpace 0x22 = false from rfl), pieces?_escapeText,
    skipSpace_cons _ (show isSpace 0x3A = false from rfl), hv steps tail hsteps htail]
  rfl

theorem readsMembers_nil : ReadsMembers [] := by
  intro k v hv steps rest hsteps
  have htext : Utf8.encode (renderString k ++ ':' :: v.render ++ renderMembers [])
      = Utf8.encode (renderString k ++ ':' :: v.render) ++ [0x7D] := by
    rw [renderMembers, Utf8.encode_append]
    rfl
  rw [htext] at hsteps ⊢
  simp only [Utf8.encode_append, Utf8.encode_cons, List.length_append, List.length_singleton]
    at hsteps
  cases steps with
  | zero => omega
  | succ steps =>
      rw [List.append_assoc, List.singleton_append,
        members?_step hv (by omega) (endsNumber_cons rest (by decide))]
      rfl

theorem readsMembers_cons {l : String} {w : Json} {ms : List (String × Json)} (hw : ReadsBack w)
    (hms : ReadsMembers ms) : ReadsMembers ((l, w) :: ms) := by
  intro k v hv steps rest hsteps
  have htext : Utf8.encode (renderString k ++ ':' :: v.render ++ renderMembers ((l, w) :: ms))
      = Utf8.encode (renderString k ++ ':' :: v.render) ++
        0x2C :: Utf8.encode (renderString l ++ ':' :: w.render ++ renderMembers ms) := by
    rw [renderMembers, Utf8.encode_append, List.cons_append, List.cons_append, Utf8.encode_cons]
    rfl
  rw [htext] at hsteps ⊢
  rw [Utf8.encode_append, Utf8.encode_cons, List.length_append, List.length_append,
    List.length_append, List.length_cons] at hsteps
  cases steps with
  | zero => omega
  | succ steps =>
      rw [List.append_assoc, List.cons_append,
        members?_step hv (by omega) (endsNumber_cons _ (by decide))]
      have hstep := hms l w hw steps rest (by omega)
      simp only [skipSpace_cons _ (show isSpace 0x2C = false from rfl), hstep]
      rfl

/-- A text starts neither with white space nor with the bracket that ends an array. -/
theorem encode_render_head {v : Json} (h : IsPrintable v) :
    ∃ b bs, Utf8.encode v.render = b :: bs ∧ isSpace b = false ∧ b ≠ 0x5D := by
  match v, h with
  | .null, _ | .bool true, _ | .bool false, _ | .array [], _ | .object [], _ =>
      exact ⟨_, _, rfl, by decide, by decide⟩
  | .integer (.ofNat n), _ =>
      obtain ⟨b, bs, hhead, hlo, hhi⟩ := encode_toDigits_head n
      exact ⟨b, bs, hhead, isSpace_of_digit hlo hhi, ne_of_digit hlo hhi (by decide)⟩
  | .integer (.negSucc n), _ => exact ⟨_, _, rfl, by decide, by decide⟩
  | .double x, hx =>
      rw [render, renderDouble_eq]
      split_ifs
      · exact ⟨_, _, rfl, by decide, by decide⟩
      · obtain ⟨b, bs, hhead, hlo, hhi⟩ := encode_chars_head (wellFormed_numeral hx)
        exact ⟨b, bs, hhead, isSpace_of_digit hlo hhi, ne_of_digit hlo hhi (by decide)⟩
  | .string s, _ =>
      rw [render, encode_renderString]
      exact ⟨_, _, rfl, by decide, by decide⟩
  | .array (_ :: _), _ | .object ((_, _) :: _), _ => exact ⟨_, _, rfl, by decide, by decide⟩

theorem readsBack_empty : ReadsBack (.array []) ∧ ReadsBack (.object []) := by
  constructor
  · intro steps rest hsteps _
    cases steps with
    | zero => exact absurd hsteps (by decide)
    | succ steps => rfl
  · intro steps rest hsteps _
    cases steps with
    | zero => exact absurd hsteps (by decide)
    | succ steps => rfl

theorem readsBack_array {v : Json} {vs : List Json} (hprintable : IsPrintable v)
    (hv : ReadsBack v) (hvs : ReadsItems vs) : ReadsBack (.array (v :: vs)) := by
  intro steps rest hsteps _
  have htext : Utf8.encode (render (.array (v :: vs)))
      = 0x5B :: Utf8.encode (v.render ++ renderItems vs) := rfl
  rw [htext, List.length_cons] at hsteps
  cases steps with
  | zero => omega
  | succ steps =>
      have hitems := hvs v hv steps rest (by omega)
      obtain ⟨b, bs, hhead, hspace, hclose⟩ := encode_render_head hprintable
      rw [htext, List.cons_append, value?]
      simp only [skipSpace_cons _ (show isSpace 0x5B = false from rfl)]
      rw [if_neg (by decide), if_pos trivial]
      rw [Utf8.encode_append, hhead, List.cons_append, List.cons_append] at hitems ⊢
      rw [skipSpace_cons _ hspace]
      split
      · rename_i heq
        exact absurd (List.cons.inj heq).1 hclose
      · rw [hitems]
        rfl

theorem readsBack_object {k : String} {v : Json} {ms : List (String × Json)}
    (hv : ReadsBack v) (hms : ReadsMembers ms) : ReadsBack (.object ((k, v) :: ms)) := by
  intro steps rest hsteps _
  have htext : Utf8.encode (render (.object ((k, v) :: ms)))
      = 0x7B :: Utf8.encode (renderString k ++ ':' :: v.render ++ renderMembers ms) := rfl
  rw [htext, List.length_cons] at hsteps
  cases steps with
  | zero => omega
  | succ steps =>
      have hmembers := hms k v hv steps rest (by omega)
      rw [htext, List.cons_append, value?]
      simp only [skipSpace_cons _ (show isSpace 0x7B = false from rfl)]
      rw [if_neg (by decide), if_neg (by decide), if_pos trivial]
      rw [Utf8.encode_append, Utf8.encode_append, encode_renderString, List.cons_append,
        List.cons_append, List.cons_append] at hmembers ⊢
      rw [skipSpace_cons _ (show isSpace 0x22 = false from rfl)]
      split
      · rename_i heq
        exact absurd (List.cons.inj heq).1 (by decide)
      · rw [hmembers]
        rfl

/-- Every value whose doubles fit reads back, and so does every list of items and members. -/
theorem readsBack_all :
    (∀ v, IsPrintable v → ReadsBack v) ∧ (∀ ms, MembersPrintable ms → ReadsMembers ms) ∧
      ∀ vs, ItemsPrintable vs → ReadsItems vs := by
  apply render.mutual_induct
  case case1 => exact fun _ => readsBack_null
  case case2 => exact fun _ => readsBack_bool true
  case case3 => exact fun _ => readsBack_bool false
  case case4 => exact fun n _ => readsBack_integer n
  case case5 => exact fun _ h => readsBack_double h
  case case6 => exact fun s _ => readsBack_string s
  case case7 => exact fun _ => readsBack_empty.1
  case case8 =>
    intro v vs hv hvs h
    exact readsBack_array h.1 (hv h.1) (hvs h.2)
  case case9 => exact fun _ => readsBack_empty.2
  case case10 =>
    intro k v ms hv hms h
    exact readsBack_object (hv h.1) (hms h.2)
  case case11 => exact fun _ => readsItems_nil
  case case12 =>
    intro v vs hv hvs h
    exact readsItems_cons (hv h.1) (hvs h.2)
  case case13 => exact fun _ => readsMembers_nil
  case case14 =>
    intro k v ms hv hms h
    exact readsMembers_cons (hv h.1) (hms h.2)

/-- **The text of a value whose doubles fit is read as that value's structure.** -/
theorem parse?_octets_of_isPrintable {v : Json} (h : IsPrintable v) :
    parse? v.octets = some (written v) := by
  have hread := readsBack_all.1 v h (2 * v.octets.length + 1) [] (Nat.le_succ _) endsNumber_nil
  rw [List.append_nil] at hread
  rw [parse?, octets, show (Utf8.encode v.render).length = v.octets.length from rfl, hread]
  rfl

/-- The text of a value without doubles is read as that value's structure. -/
theorem parse?_octets {v : Json} (h : isExact v = true) : parse? v.octets = some (written v) :=
  parse?_octets_of_isPrintable (isPrintable_of_isExact v h)

end Written

end CredentialGateway.Json
