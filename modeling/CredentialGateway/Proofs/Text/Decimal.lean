/-
What a reader of decimal numbers answers, said without the reading.

`valueOf` knows no limit, and `Writes` is the grammar: at most one plus sign and at least
one digit.  The reader keeps a running value that never passes the limit, so the value of
the digits it has read is the value of a part of the text (`valueOf front`), and every
statement about it is an induction over the rest behind such a part.

A fault is the first one met from the left.  A character that is no digit is at fault if
the digits before it are still within the limit; a digit is at fault if it takes them past
it.  With more digits the value never falls, so the two exclude each other.
-/
import Mathlib
import CredentialGateway.Text.Decimal

namespace CredentialGateway.Decimal

/-! ### Numbers and their digits -/

/-- Whether a text is made of digits. -/
def AreDigits (ds : List Char) : Prop :=
  ∀ c ∈ ds, c.isDigit = true

/-- The number that digits write, the last one being the units. -/
def valueOf (ds : List Char) : Nat :=
  Nat.ofDigits 10 (ds.reverse.map fun c => c.toNat - 48)

theorem valueOf_append (front back : List Char) :
    valueOf (front ++ back) = valueOf back + 10 ^ back.length * valueOf front := by
  rw [valueOf, List.reverse_append, List.map_append, Nat.ofDigits_append, List.length_map,
    List.length_reverse]
  rfl

theorem valueOf_concat (front : List Char) (c : Char) :
    valueOf (front ++ [c]) = valueOf front * 10 + (c.toNat - 48) := by
  have hone : valueOf [c] = c.toNat - 48 := by simp [valueOf]
  rw [valueOf_append, hone, List.length_singleton]
  omega

theorem valueOf_le_append (front back : List Char) : valueOf front ≤ valueOf (front ++ back) := by
  rw [valueOf_append]
  exact (Nat.le_mul_of_pos_left _ (Nat.pow_pos (by omega))).trans (Nat.le_add_left _ _)

theorem digit?_eq (c : Char) : digit? c = if c.isDigit then some (c.toNat - 48) else none := by
  rw [digit?]
  refine if_congr ?_ rfl rfl
  simp only [Char.isDigit, Bool.and_eq_true, decide_eq_true_eq, Char.le_def, ge_iff_le]

/-! ### Reading digits -/

variable {limit n : Nat} {front rest : List Char} {c : Char}

theorem readDigits_nil (sofar : Nat) : readDigits limit sofar [] = .ok sofar := rfl

theorem readDigits_of_not_isDigit (hc : c.isDigit = false) (sofar : Nat) :
    readDigits limit sofar (c :: rest) = .error .invalidDigit := by
  rw [readDigits, digit?_eq, hc]
  rfl

theorem readDigits_of_isDigit (hc : c.isDigit = true) :
    readDigits limit (valueOf front) (c :: rest) =
      if limit < valueOf (front ++ [c]) then .error .tooLarge
      else readDigits limit (valueOf (front ++ [c])) rest := by
  rw [readDigits, digit?_eq, hc, valueOf_concat]
  rfl

/-- What an answer says of the text `rest`, behind digits `front` that are read already. -/
def Tells (limit : Nat) (front rest : List Char) : Except Fault Nat → Prop
  | .ok n => AreDigits rest ∧ valueOf (front ++ rest) = n ∧ n ≤ limit
  | .error .invalidDigit =>
    ∃ ds c back, rest = ds ++ c :: back ∧ AreDigits ds ∧ valueOf (front ++ ds) ≤ limit ∧
      c.isDigit = false
  | .error .tooLarge => ∃ ds back, rest = ds ++ back ∧ AreDigits ds ∧ limit < valueOf (front ++ ds)
  | .error .empty => False

variable {r r' : Except Fault Nat}

/-- What an answer says behind one more digit, it says in front of that digit. -/
theorem Tells.cons (hc : c.isDigit = true) (h : Tells limit (front ++ [c]) rest r) :
    Tells limit front (c :: rest) r := by
  have hcut : ∀ ds, front ++ [c] ++ ds = front ++ c :: ds := fun ds => by simp
  match r, h with
  | .ok n, ⟨hdigits, hvalue, hle⟩ =>
      exact ⟨List.forall_mem_cons.mpr ⟨hc, hdigits⟩, hcut rest ▸ hvalue, hle⟩
  | .error .invalidDigit, ⟨ds, d, back, hrest, hdigits, hle, hd⟩ =>
      exact ⟨c :: ds, d, back, by rw [hrest, List.cons_append],
        List.forall_mem_cons.mpr ⟨hc, hdigits⟩, hcut ds ▸ hle, hd⟩
  | .error .tooLarge, ⟨ds, back, hrest, hdigits, hlarge⟩ =>
      exact ⟨c :: ds, back, by rw [hrest, List.cons_append],
        List.forall_mem_cons.mpr ⟨hc, hdigits⟩, hcut ds ▸ hlarge⟩

theorem tells_readDigits (hfront : valueOf front ≤ limit) :
    Tells limit front rest (readDigits limit (valueOf front) rest) := by
  induction rest generalizing front with
  | nil =>
      rw [readDigits_nil]
      exact ⟨fun c hc => absurd hc List.not_mem_nil, by rw [List.append_nil], hfront⟩
  | cons c rest ih =>
      cases hc : c.isDigit with
      | false =>
          rw [readDigits_of_not_isDigit hc]
          exact ⟨[], c, rest, rfl, fun c hc => absurd hc List.not_mem_nil,
            by rwa [List.append_nil], hc⟩
      | true =>
          rw [readDigits_of_isDigit hc]
          split
          · rename_i hlarge
            exact ⟨[c], rest, rfl, fun d hd => by rw [List.mem_singleton.mp hd, hc], hlarge⟩
          · rename_i hwithin
            exact (ih (Nat.le_of_not_lt hwithin)).cons hc

/-- Digits that stand in front of a text stop before its first character that is no digit. -/
theorem prefix_of_areDigits {ds ds' back back' : List Char} (hcut : ds ++ c :: back = ds' ++ back')
    (hdigits : AreDigits ds') (hc : c.isDigit = false) : ds' <+: ds := by
  rcases List.prefix_or_prefix_of_prefix (List.prefix_append ds' back')
    (hcut ▸ List.prefix_append ds (c :: back)) with hfront | ⟨more, rfl⟩
  · exact hfront
  · cases more with
    | nil => rw [List.append_nil]
    | cons d more =>
        rw [List.append_assoc, List.append_cancel_left_eq, List.cons_append, List.cons.injEq]
          at hcut
        have hd := hdigits d (by simp)
        rw [← hcut.1, hc] at hd
        cases hd

theorem valueOf_le_of_prefix (front : List Char) {ds' ds : List Char} (h : ds' <+: ds) :
    valueOf (front ++ ds') ≤ valueOf (front ++ ds) := by
  obtain ⟨more, rfl⟩ := h
  rw [← List.append_assoc]
  exact valueOf_le_append _ _

theorem Tells.not_invalidDigit_of_ok (h : Tells limit front rest (.ok n)) :
    ¬ Tells limit front rest (.error .invalidDigit) := by
  rintro ⟨ds, c, back, rfl, -, -, hc⟩
  rw [h.1 c (by simp)] at hc
  cases hc

theorem Tells.not_tooLarge_of_ok (h : Tells limit front rest (.ok n)) :
    ¬ Tells limit front rest (.error .tooLarge) := by
  rintro ⟨ds, back, rfl, -, hlarge⟩
  obtain ⟨-, rfl, hle⟩ := h
  have hgrown := valueOf_le_of_prefix front (List.prefix_append ds back)
  omega

theorem Tells.not_tooLarge_of_invalidDigit (h : Tells limit front rest (.error .invalidDigit)) :
    ¬ Tells limit front rest (.error .tooLarge) := by
  rintro ⟨ds', back', hcut, hdigits, hlarge⟩
  obtain ⟨ds, c, back, rfl, -, hle, hc⟩ := h
  have hgrown := valueOf_le_of_prefix front (prefix_of_areDigits hcut hdigits hc)
  omega

/-- Of one text there is one answer. -/
theorem Tells.unique (h : Tells limit front rest r) (h' : Tells limit front rest r') : r = r' := by
  match r, r', h, h' with
  | .ok n, .ok n', h, h' => exact congrArg _ (h.2.1.symm.trans h'.2.1)
  | .ok n, .error .invalidDigit, h, h' => exact absurd h' h.not_invalidDigit_of_ok
  | .ok n, .error .tooLarge, h, h' => exact absurd h' h.not_tooLarge_of_ok
  | .error .invalidDigit, .ok n, h, h' => exact absurd h h'.not_invalidDigit_of_ok
  | .error .invalidDigit, .error .invalidDigit, _, _ => rfl
  | .error .invalidDigit, .error .tooLarge, h, h' => exact absurd h' h.not_tooLarge_of_invalidDigit
  | .error .tooLarge, .ok n, h, h' => exact absurd h h'.not_tooLarge_of_ok
  | .error .tooLarge, .error .invalidDigit, h, h' => exact absurd h h'.not_tooLarge_of_invalidDigit
  | .error .tooLarge, .error .tooLarge, _, _ => rfl

/-- **The answer is the one that holds of the text.** -/
theorem readDigits_eq_iff (hfront : valueOf front ≤ limit) :
    readDigits limit (valueOf front) rest = r ↔ Tells limit front rest r :=
  ⟨fun h => h ▸ tells_readDigits hfront, fun h => (tells_readDigits hfront).unique h⟩

/-! ### Whole texts -/

/-- A text without the one plus sign that may stand in front. -/
def unsigned : List Char → List Char
  | '+' :: digits => digits
  | text => text

/-- A text writes a number: at most one plus sign, and digits. -/
structure Writes (text : List Char) (n : Nat) : Prop where
  ne_nil : unsigned text ≠ []
  digits : AreDigits (unsigned text)
  value : valueOf (unsigned text) = n

/-- Why a text is not a number of at most `limit`. -/
def IsFault (limit : Nat) (text : List Char) : Fault → Prop
  | .empty => text = []
  | .invalidDigit =>
    text = ['+'] ∨ ∃ ds c back, unsigned text = ds ++ c :: back ∧ AreDigits ds ∧
      valueOf ds ≤ limit ∧ c.isDigit = false
  | .tooLarge => ∃ ds back, unsigned text = ds ++ back ∧ AreDigits ds ∧ limit < valueOf ds

variable {text : List Char} {fault : Fault}

theorem unsigned_eq_nil_iff : unsigned text = [] ↔ text = [] ∨ text = ['+'] := by
  rw [unsigned.eq_def]
  split
  · simp
  · rename_i hplus
    exact ⟨Or.inl, fun h => h.resolve_right fun hone => hplus [] hone⟩

theorem read_eq_readDigits (h : unsigned text ≠ []) :
    read limit text = readDigits limit (valueOf []) (unsigned text) := by
  rw [ne_eq, unsigned_eq_nil_iff, not_or] at h
  rw [read.eq_def, unsigned.eq_def]
  split
  · exact absurd rfl h.1
  · exact absurd rfl h.2
  · rfl
  · split
    · rename_i hplus
      exact (hplus _ rfl).elim
    · rfl

/-- Behind at most one plus sign, an answer on a text is one on its digits. -/
theorem read_eq_iff_tells (h : unsigned text ≠ []) :
    read limit text = r ↔ Tells limit [] (unsigned text) r := by
  rw [read_eq_readDigits h, readDigits_eq_iff (Nat.zero_le _)]

/-- **A text is read as a number** just if it writes that number, and the number is within the
limit. -/
theorem read_eq_ok_iff : read limit text = .ok n ↔ Writes text n ∧ n ≤ limit := by
  by_cases hnil : unsigned text = []
  · have hread : ∀ n, read limit text ≠ .ok n := by
      rcases unsigned_eq_nil_iff.mp hnil with rfl | rfl
      · exact fun n h => by cases h
      · exact fun n h => by cases h
    exact ⟨fun h => absurd h (hread n), fun h => absurd hnil h.1.ne_nil⟩
  · rw [read_eq_iff_tells hnil]
    exact ⟨fun h => ⟨⟨hnil, h.1, h.2.1⟩, h.2.2⟩, fun h => ⟨h.1.digits, h.1.value, h.2⟩⟩

/-- A text without digits is not at fault for what it writes. -/
theorem isFault_of_unsigned_eq_nil (h : unsigned text = []) : IsFault limit text fault ↔
    text = [] ∧ fault = .empty ∨ text = ['+'] ∧ fault = .invalidDigit := by
  cases fault with
  | empty => simp [IsFault]
  | invalidDigit => simp [IsFault, h]
  | tooLarge =>
      have hnone : ¬ IsFault limit text .tooLarge := by
        rintro ⟨ds, back, hcut, -, hlarge⟩
        rw [h] at hcut
        rw [(List.append_eq_nil_iff.mp hcut.symm).1] at hlarge
        exact absurd hlarge (Nat.not_lt_zero limit)
      simp [hnone]

/-- **A text is refused for the fault that it has.** -/
theorem read_eq_error_iff : read limit text = .error fault ↔ IsFault limit text fault := by
  by_cases hnil : unsigned text = []
  · rw [isFault_of_unsigned_eq_nil hnil]
    rcases unsigned_eq_nil_iff.mp hnil with rfl | rfl
    · simp [read, eq_comm]
    · simp [read, eq_comm]
  · have htext := not_or.mp fun h => hnil (unsigned_eq_nil_iff.mpr h)
    rw [read_eq_iff_tells hnil]
    cases fault with
    | empty => exact ⟨False.elim, htext.1⟩
    | invalidDigit => exact ⟨Or.inr, fun h => h.resolve_left htext.2⟩
    | tooLarge => exact Iff.rfl

/-- The limit is passed before the letter is met. -/
example : read 65535 "65536x".toList = .error .tooLarge := by decide

end CredentialGateway.Decimal
