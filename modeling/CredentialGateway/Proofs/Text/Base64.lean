/-
Strict Base64 has one text for each octet sequence.

That reading undoes writing is only half of what a signature check needs.  The other
half is that nothing but the written form is read: a second text for the same octets
would be a second signature for the same message.  So every reader below gets an
equivalence for its specification, `decode_eq_ok_iff` for the whole of it: a text is
read as `bs` exactly if it is the text that `encode` writes for `bs`.

The equivalence for the groups of four is an induction over the text that follows
`decodeGroups`.  The arithmetic of the six-bit values is done once, for the last group
(`lastOctets_sextets`, `sextets_of_lastOctets`): a group of four is a last group of four.
-/
import Mathlib
import CredentialGateway.Text.Base64

namespace CredentialGateway

/-- A reader that reads twice succeeds if both of its readers do. -/
theorem bind_eq_ok_iff {ε α β : Type} {x : Except ε α} {f : α → Except ε β} {r : β} :
    x >>= f = .ok r ↔ ∃ a, x = .ok a ∧ f a = .ok r := by
  cases x with
  | error e => simp [bind, Except.bind]
  | ok a => simp [bind, Except.bind]

/-- A reader that reads twice fails if the first of its readers fails or the second does. -/
theorem bind_eq_error_iff {ε α β : Type} {x : Except ε α} {f : α → Except ε β} {e : ε} :
    x >>= f = .error e ↔ x = .error e ∨ ∃ a, x = .ok a ∧ f a = .error e := by
  cases x with
  | error d => simp [bind, Except.bind]
  | ok a => simp [bind, Except.bind]

namespace Base64

/-- The symbols of a variant can be told from each other and from the padding. -/
structure Variant.Proper (v : Variant) : Prop where
  value_symbol : ∀ n < 64, v.value? (v.symbol n) = some n
  symbol_ne_pad : ∀ n < 64, v.symbol n ≠ pad

theorem urlSafe_proper : urlSafe.Proper := ⟨by decide, by decide⟩

namespace Variant

variable {v : Variant}

/-! ### Symbols -/

theorem symbol_of_value? {b : UInt8} {n : Nat} (h : v.value? b = some n) :
    n < 64 ∧ v.symbol n = b := by
  have hb : UInt8.ofNat b.toNat = b := UInt8.ofNat_toNat
  simp only [value?] at h
  by_cases h1 : 65 ≤ b.toNat ∧ b.toNat ≤ 90
  · rw [if_pos h1, Option.some.injEq] at h
    refine ⟨by omega, ?_⟩
    rw [symbol, if_pos (by omega), show 65 + n = b.toNat by omega, hb]
  rw [if_neg h1] at h
  by_cases h2 : 97 ≤ b.toNat ∧ b.toNat ≤ 122
  · rw [if_pos h2, Option.some.injEq] at h
    refine ⟨by omega, ?_⟩
    rw [symbol, if_neg (by omega), if_pos (by omega), show 71 + n = b.toNat by omega, hb]
  rw [if_neg h2] at h
  by_cases h3 : 48 ≤ b.toNat ∧ b.toNat ≤ 57
  · rw [if_pos h3, Option.some.injEq] at h
    refine ⟨by omega, ?_⟩
    rw [symbol, if_neg (by omega), if_neg (by omega), if_pos (by omega),
      show n - 4 = b.toNat by omega, hb]
  rw [if_neg h3] at h
  by_cases h4 : b = v.symbol62
  · rw [if_pos h4, Option.some.injEq] at h
    subst h
    exact ⟨by omega, by simp [symbol, h4]⟩
  rw [if_neg h4] at h
  by_cases h5 : b = v.symbol63
  · rw [if_pos h5, Option.some.injEq] at h
    subst h
    exact ⟨by omega, by simp [symbol, h5]⟩
  · rw [if_neg h5] at h
    simp at h

theorem value?_eq_some_iff (hv : v.Proper) {b : UInt8} {n : Nat} :
    v.value? b = some n ↔ n < 64 ∧ b = v.symbol n := by
  constructor
  · intro h
    obtain ⟨hn, hs⟩ := symbol_of_value? h
    exact ⟨hn, hs.symm⟩
  · rintro ⟨hn, rfl⟩
    exact hv.value_symbol n hn

theorem valueAt_eq_ok_iff (hv : v.Proper) {offset : Nat} {b : UInt8} {n : Nat} :
    v.valueAt offset b = .ok n ↔ n < 64 ∧ b = v.symbol n := by
  rw [← value?_eq_some_iff hv, valueAt]
  cases v.value? b with
  | none => simp
  | some m => simp

theorem valuesFrom_eq_ok_iff (hv : v.Proper) :
    ∀ (bs : List UInt8) (offset : Nat) (ns : List Nat),
      v.valuesFrom offset bs = .ok ns ↔ (∀ n ∈ ns, n < 64) ∧ bs = ns.map v.symbol := by
  intro bs
  induction bs with
  | nil =>
      intro offset ns
      cases ns with
      | nil => simp [valuesFrom]
      | cons n ns => simp [valuesFrom]
  | cons b rest ih =>
      intro offset ns
      simp only [valuesFrom, bind_eq_ok_iff, valueAt_eq_ok_iff hv, ih]
      constructor
      · rintro ⟨n, ⟨hn, rfl⟩, ms, ⟨hms, rfl⟩, hret⟩
        cases hret
        exact ⟨List.forall_mem_cons.mpr ⟨hn, hms⟩, rfl⟩
      · rintro ⟨hns, hmap⟩
        cases ns with
        | nil => simp at hmap
        | cons n ms =>
            obtain ⟨hn, hms⟩ := List.forall_mem_cons.mp hns
            rw [List.map_cons, List.cons.injEq] at hmap
            exact ⟨n, ⟨hn, hmap.1⟩, ms, ⟨hms, hmap.2⟩, rfl⟩

/-! ### The last group

The symbols end where the padding begins, so a group is cut in only one way.
-/

theorem takeWhile_symbols (hv : v.Proper) {ns : List Nat} (hns : ∀ n ∈ ns, n < 64) (k : Nat) :
    (ns.map v.symbol ++ List.replicate k pad).takeWhile (fun b => b != pad)
      = ns.map v.symbol := by
  rw [List.takeWhile_append_of_pos]
  · cases k with
    | zero => simp
    | succ k => simp [List.replicate_succ]
  · intro b hb
    obtain ⟨n, hn, rfl⟩ := List.mem_map.mp hb
    simpa using hv.symbol_ne_pad n (hns n hn)

theorem lastGroup_eq_ok_iff (hv : v.Proper) {offset : Nat} {group : List UInt8} {ns : List Nat}
    {k : Nat} :
    v.lastGroup offset group = .ok (ns, k) ↔
      (∀ n ∈ ns, n < 64) ∧ group = ns.map v.symbol ++ List.replicate k pad ∧
        (k = 0 ∨ 2 ≤ ns.length) := by
  simp only [lastGroup, bind_eq_ok_iff, valuesFrom_eq_ok_iff hv]
  constructor
  · rintro ⟨ms, ⟨hms, hsym⟩, hret⟩
    have hcut : group = ms.map v.symbol ++ group.drop (ms.map v.symbol).length := by
      rw [← hsym]
      exact (List.prefix_iff_eq_append.mp (List.takeWhile_prefix _)).symm
    rw [hsym] at hret
    by_cases hempty : (group.drop (ms.map v.symbol).length).isEmpty
    · rw [if_pos hempty] at hret
      cases hret
      rw [List.isEmpty_iff] at hempty
      rw [hempty, List.append_nil] at hcut
      exact ⟨hms, by simpa using hcut, Or.inl rfl⟩
    rw [if_neg hempty] at hret
    by_cases hbad : (decide ((ms.map v.symbol).length < 2) ||
        (group.drop (ms.map v.symbol).length).any fun b => b != pad) = true
    · rw [if_pos hbad] at hret
      cases hret
    · rw [if_neg hbad] at hret
      cases hret
      simp only [List.length_map, Bool.or_eq_true, decide_eq_true_eq, List.any_eq_true, not_or,
        not_exists, not_and, bne_iff_ne, ne_eq, not_not] at hbad
      refine ⟨hms, ?_, Or.inr (by omega)⟩
      rw [← List.eq_replicate_of_mem (a := pad)]
      · exact hcut
      · simpa using hbad.2
  · rintro ⟨hns, rfl, hk⟩
    refine ⟨ns, ⟨hns, takeWhile_symbols hv hns k⟩, ?_⟩
    rw [takeWhile_symbols hv hns k, List.drop_left]
    cases k with
    | zero => rfl
    | succ k =>
        have hlen : ¬ ns.length ≤ 1 := by omega
        simp [List.replicate_succ, hlen]
        rfl

/-- The six-bit values of one to three octets. -/
def sextets : List UInt8 → List Nat
  | [a] => [a.toNat / 4, a.toNat % 4 * 16]
  | [a, b] => [a.toNat / 4, a.toNat % 4 * 16 + b.toNat / 16, b.toNat % 16 * 4]
  | [a, b, c] =>
    [a.toNat / 4, a.toNat % 4 * 16 + b.toNat / 16, b.toNat % 16 * 4 + c.toNat / 64,
      c.toNat % 64]
  | _ => []

theorem length_sextets {bs : List UInt8} (hpos : bs ≠ []) (hlen : bs.length ≤ 3) :
    (sextets bs).length = bs.length + 1 := by
  match bs, hpos, hlen with
  | [_], _, _ => rfl
  | [_, _], _, _ => rfl
  | [_, _, _], _, _ => rfl
  | _ :: _ :: _ :: _ :: _, _, hlen => exact absurd hlen (by simp)

theorem sextets_lt (bs : List UInt8) : ∀ n ∈ sextets bs, n < 64 := by
  intro n hn
  match bs, hn with
  | [a], hn =>
      have ha := a.toNat_lt
      simp only [sextets, List.mem_cons, List.not_mem_nil, or_false] at hn
      omega
  | [a, b], hn =>
      have ha := a.toNat_lt
      have hb := b.toNat_lt
      simp only [sextets, List.mem_cons, List.not_mem_nil, or_false] at hn
      omega
  | [a, b, c], hn =>
      have ha := a.toNat_lt
      have hb := b.toNat_lt
      have hc := c.toNat_lt
      simp only [sextets, List.mem_cons, List.not_mem_nil, or_false] at hn
      omega

/-- The last group: one to three octets, one symbol more than octets, and the padding. -/
theorem encode_short {bs : List UInt8} (hpos : bs ≠ []) (hlen : bs.length ≤ 3) :
    v.encode bs = (sextets bs).map v.symbol ++ v.padding (3 - bs.length) := by
  match bs, hpos, hlen with
  | [_], _, _ => rfl
  | [_, _], _, _ => rfl
  | [_, _, _], _, _ => simp [encode, sextets, padding]
  | _ :: _ :: _ :: _ :: _, _, hlen => exact absurd hlen (by simp)

theorem ofNat_eq_of_eq_toNat {n : Nat} {b : UInt8} (h : n = b.toNat) : UInt8.ofNat n = b := by
  rw [h, UInt8.ofNat_toNat]

theorem lastOctets_sextets (offset : Nat) (last : UInt8) {bs : List UInt8} (hpos : bs ≠ [])
    (hlen : bs.length ≤ 3) : lastOctets offset last (sextets bs) = .ok bs := by
  match bs, hpos, hlen with
  | [a], _, _ =>
      rw [sextets, lastOctets, if_pos (by omega), ofNat_eq_of_eq_toNat (b := a) (by omega)]
  | [a, b], _, _ =>
      have hb := b.toNat_lt
      rw [sextets, lastOctets, if_pos (by omega), ofNat_eq_of_eq_toNat (b := a) (by omega),
        ofNat_eq_of_eq_toNat (b := b) (by omega)]
  | [a, b, c], _, _ =>
      have hb := b.toNat_lt
      have hc := c.toNat_lt
      rw [sextets, lastOctets, ofNat_eq_of_eq_toNat (b := a) (by omega),
        ofNat_eq_of_eq_toNat (b := b) (by omega), ofNat_eq_of_eq_toNat (b := c) (by omega)]
  | _ :: _ :: _ :: _ :: _, _, hlen => exact absurd hlen (by simp)

/-- Spare bits must be zero, so the six-bit values of the last group are those of its octets. -/
theorem sextets_of_lastOctets {offset : Nat} {last : UInt8} {ns : List Nat} {bs : List UInt8}
    (hns : ∀ n ∈ ns, n < 64) (hlo : 2 ≤ ns.length) (hhi : ns.length ≤ 4)
    (h : lastOctets offset last ns = .ok bs) : bs ≠ [] ∧ bs.length ≤ 3 ∧ ns = sextets bs := by
  match ns, hns, hlo, hhi with
  | [x, y], hns, _, _ =>
      simp only [List.forall_mem_cons] at hns
      obtain ⟨hx, hy, -⟩ := hns
      rw [lastOctets] at h
      by_cases hspare : y % 16 = 0
      · rw [if_pos hspare] at h
        cases h
        refine ⟨by simp, by simp, ?_⟩
        simp only [sextets, UInt8.toNat_ofNat_of_lt' (show x * 4 + y / 16 < 256 by omega),
          List.cons.injEq, and_true]
        omega
      · rw [if_neg hspare] at h
        cases h
  | [x, y, z], hns, _, _ =>
      simp only [List.forall_mem_cons] at hns
      obtain ⟨hx, hy, hz, -⟩ := hns
      rw [lastOctets] at h
      by_cases hspare : z % 4 = 0
      · rw [if_pos hspare] at h
        cases h
        refine ⟨by simp, by simp, ?_⟩
        simp only [sextets, UInt8.toNat_ofNat_of_lt' (show x * 4 + y / 16 < 256 by omega),
          UInt8.toNat_ofNat_of_lt' (show y % 16 * 16 + z / 4 < 256 by omega),
          List.cons.injEq, and_true]
        omega
      · rw [if_neg hspare] at h
        cases h
  | [x, y, z, w], hns, _, _ =>
      simp only [List.forall_mem_cons] at hns
      obtain ⟨hx, hy, hz, hw, -⟩ := hns
      rw [lastOctets] at h
      cases h
      refine ⟨by simp, by simp, ?_⟩
      simp only [sextets, UInt8.toNat_ofNat_of_lt' (show x * 4 + y / 16 < 256 by omega),
        UInt8.toNat_ofNat_of_lt' (show y % 16 * 16 + z / 4 < 256 by omega),
        UInt8.toNat_ofNat_of_lt' (show z % 4 * 64 + w < 256 by omega), List.cons.injEq, and_true]
      omega
  | _ :: _ :: _ :: _ :: _ :: _, _, _, hhi => exact absurd hhi (by simp)

theorem decodeLast_eq_ok_iff (hv : v.Proper) {offset : Nat} {group bs : List UInt8}
    (hlen : group.length ≤ 4) :
    v.decodeLast offset group = .ok bs ↔ bs ≠ [] ∧ bs.length ≤ 3 ∧ group = v.encode bs := by
  simp only [decodeLast, bind_eq_ok_iff]
  constructor
  · rintro ⟨⟨ns, k⟩, hgroup, h⟩
    obtain ⟨hns, hcut, -⟩ := (lastGroup_eq_ok_iff hv).mp hgroup
    have hhi : ns.length ≤ 4 := by
      rw [hcut] at hlen
      simp only [List.length_append, List.length_map, List.length_replicate] at hlen
      omega
    by_cases hlo : ns.length < 2
    · rw [if_pos hlo] at h
      cases h
    rw [if_neg hlo] at h
    by_cases hpad : v.padded = true
    · rw [if_pos hpad] at h
      by_cases hfull : ns.length + k ≠ 4
      · rw [if_pos hfull] at h
        cases h
      rw [if_neg hfull] at h
      obtain ⟨hpos, hshort, rfl⟩ := sextets_of_lastOctets hns (by omega) hhi h
      rw [length_sextets hpos hshort] at hfull
      rw [encode_short hpos hshort, padding, if_pos hpad, hcut,
        show k = 3 - bs.length by omega]
      exact ⟨hpos, hshort, rfl⟩
    · rw [if_neg hpad] at h
      by_cases hsome : k ≠ 0
      · rw [if_pos hsome] at h
        cases h
      rw [if_neg hsome] at h
      obtain ⟨hpos, hshort, rfl⟩ := sextets_of_lastOctets hns (by omega) hhi h
      rw [encode_short hpos hshort, padding, if_neg hpad, hcut, show k = 0 by omega]
      exact ⟨hpos, hshort, rfl⟩
  · rintro ⟨hpos, hshort, rfl⟩
    have hsix := length_sextets hpos hshort
    have hbs : 0 < bs.length := List.length_pos_iff.mpr hpos
    have hread : ∀ last, lastOctets offset last (sextets bs) = .ok bs :=
      fun last => lastOctets_sextets offset last hpos hshort
    have hcut : v.encode bs = (sextets bs).map v.symbol ++
        List.replicate (if v.padded then 3 - bs.length else 0) pad := by
      rw [encode_short hpos hshort, padding]
      split <;> rfl
    refine ⟨(sextets bs, if v.padded then 3 - bs.length else 0),
      (lastGroup_eq_ok_iff hv).mpr ⟨sextets_lt bs, hcut, Or.inr (by omega)⟩, ?_⟩
    dsimp only
    rw [if_neg (by omega)]
    by_cases hpad : v.padded = true
    · rw [if_pos hpad, if_neg (by rw [if_pos hpad]; omega)]
      exact hread _
    · rw [if_neg hpad, if_neg (by rw [if_neg hpad]; omega)]
      exact hread _

/-! ### Whole texts -/

theorem encode_three (a b c : UInt8) (rest : List UInt8) :
    v.encode (a :: b :: c :: rest) = (sextets [a, b, c]).map v.symbol ++ v.encode rest := rfl

theorem encode_ne_nil {bs : List UInt8} (h : bs ≠ []) : v.encode bs ≠ [] := by
  match bs, h with
  | [_], _ => simp [encode]
  | [_, _], _ => simp [encode]
  | _ :: _ :: _ :: _, _ => simp [encode]

/-- One group is written for three octets and fewer, and for no more. -/
theorem length_encode_le_four_iff {bs : List UInt8} :
    (v.encode bs).length ≤ 4 ↔ bs.length ≤ 3 := by
  match bs with
  | [] => simp [encode]
  | a :: b :: c :: d :: rest =>
      have hpos : 0 < (v.encode (d :: rest)).length :=
        List.length_pos_iff.mpr (encode_ne_nil (List.cons_ne_nil d rest))
      rw [encode_three, List.length_append, List.length_map]
      simp only [sextets, List.length_cons, List.length_nil]
      omega
  | [a] | [a, b] | [a, b, c] =>
      rw [encode_short (by simp) (by simp), List.length_append, List.length_map,
        length_sextets (by simp) (by simp), padding]
      split <;> simp

theorem decodeGroups_eq_ok_iff (hv : v.Proper) (offset : Nat) (text : List UInt8) :
    ∀ bs, v.decodeGroups offset text = .ok bs ↔ text = v.encode bs := by
  fun_induction decodeGroups v offset text with
  | case1 =>
      intro bs
      rw [Except.ok.injEq]
      constructor
      · rintro rfl
        rfl
      · intro h
        by_contra hne
        exact encode_ne_nil (Ne.symm hne) h.symm
  | case2 offset a b c d e rest ih =>
      intro bs
      simp only [bind_eq_ok_iff, valueAt_eq_ok_iff hv, ih]
      constructor
      · rintro ⟨w, ⟨hw, rfl⟩, x, ⟨hx, rfl⟩, y, ⟨hy, rfl⟩, z, ⟨hz, rfl⟩, octets, hrest, hret⟩
        cases hret
        have hns : ∀ n ∈ [w, x, y, z], n < 64 := by
          simp only [List.forall_mem_cons]
          exact ⟨hw, hx, hy, hz, by simp⟩
        obtain ⟨-, -, hsix⟩ := @sextets_of_lastOctets 0 0 _ _ hns (by simp) (by simp) rfl
        rw [encode_three, ← hsix, ← hrest]
        rfl
      · intro h
        have hlong : ¬ bs.length ≤ 3 := by
          rw [← length_encode_le_four_iff (v := v), ← h]
          simp
        match bs, hlong with
        | p :: q :: r :: octets, _ =>
            have hread := @lastOctets_sextets 0 0 [p, q, r] (by simp) (by simp)
            have hlt := sextets_lt [p, q, r]
            simp only [sextets, lastOctets, Except.ok.injEq, List.cons.injEq] at hread
            simp only [sextets, List.forall_mem_cons] at hlt
            rw [encode_three] at h
            simp only [sextets, List.map_cons, List.map_nil, List.cons_append, List.nil_append,
              List.cons.injEq] at h
            obtain ⟨ha, hb, hc, hd, hrest⟩ := h
            refine ⟨_, ⟨hlt.1, ha⟩, _, ⟨hlt.2.1, hb⟩, _, ⟨hlt.2.2.1, hc⟩, _, ⟨hlt.2.2.2.1, hd⟩,
              octets, hrest, ?_⟩
            rw [hread.1, hread.2.1, hread.2.2.1]
            rfl
        | [], hlong | [_], hlong | [_, _], hlong => exact absurd (by simp) hlong
  | case3 offset group hnil hlong =>
      intro bs
      have hgroup : group.length ≤ 4 := by
        match group, hlong with
        | [], _ | [_], _ | [_, _], _ | [_, _, _], _ | [_, _, _, _], _ => simp
        | _ :: _ :: _ :: _ :: _ :: _, hlong => exact (hlong _ _ _ _ _ _ rfl).elim
      rw [decodeLast_eq_ok_iff hv hgroup]
      constructor
      · exact fun h => h.2.2
      · rintro rfl
        refine ⟨?_, length_encode_le_four_iff.mp hgroup, rfl⟩
        rintro rfl
        exact hnil rfl

/-- Only symbols are written, and padding if the variant has it. -/
theorem mem_encode {b : UInt8} {bs : List UInt8} (h : b ∈ v.encode bs) :
    (v.padded = true ∧ b = pad) ∨ ∃ n < 64, b = v.symbol n := by
  have hsymbol : ∀ cs : List UInt8, b ∈ (sextets cs).map v.symbol → ∃ n < 64, b = v.symbol n := by
    intro cs hb
    obtain ⟨n, hn, rfl⟩ := List.mem_map.mp hb
    exact ⟨n, sextets_lt cs n hn, rfl⟩
  have hshort : ∀ cs : List UInt8, cs ≠ [] → cs.length ≤ 3 → b ∈ v.encode cs →
      (v.padded = true ∧ b = pad) ∨ ∃ n < 64, b = v.symbol n := by
    intro cs hpos hlen hb
    rw [encode_short hpos hlen, List.mem_append, padding] at hb
    rcases hb with hb | hb
    · exact Or.inr (hsymbol cs hb)
    · split at hb
      · exact Or.inl ⟨‹_›, List.eq_of_mem_replicate hb⟩
      · simp at hb
  induction bs using encode.induct with
  | case1 => simp [encode] at h
  | case2 x => exact hshort [x] (by simp) (by simp) h
  | case3 x y => exact hshort [x, y] (by simp) (by simp) h
  | case4 x y z rest ih =>
      rw [encode_three, List.mem_append] at h
      rcases h with h | h
      · exact Or.inr (hsymbol _ h)
      · exact ih h

/-- A written text has no octet behind its groups that is neither symbol nor padding. -/
theorem strayEnd?_encode (hv : v.Proper) (bs : List UInt8) : v.strayEnd? (v.encode bs) = none := by
  rw [strayEnd?]
  split
  · split
    · rename_i b hlast
      rw [if_neg]
      rintro ⟨hpad, hvalue⟩
      rcases mem_encode (List.mem_of_getLast? hlast) with ⟨-, rfl⟩ | ⟨n, hn, rfl⟩
      · exact hpad rfl
      · rw [hv.value_symbol n hn] at hvalue
        cases hvalue
    · rfl
  · rfl

/-- **A text is read as some octets exactly if it is the text written for them.** -/
theorem decode_eq_ok_iff (hv : v.Proper) {text bs : List UInt8} :
    v.decode text = .ok bs ↔ text = v.encode bs := by
  rw [decode]
  constructor
  · intro h
    cases hstray : v.strayEnd? text with
    | some fault =>
        rw [hstray] at h
        cases h
    | none =>
        rw [hstray] at h
        exact (decodeGroups_eq_ok_iff hv 0 text bs).mp h
  · rintro rfl
    rw [strayEnd?_encode hv]
    exact (decodeGroups_eq_ok_iff hv 0 _ bs).mpr rfl

end Variant

end Base64

end CredentialGateway
