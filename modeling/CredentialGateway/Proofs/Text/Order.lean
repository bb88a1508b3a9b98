/-
The order of texts is the order of their octets.

Texts are compared character by character, their octets octet by octet.  The octets of a
character are its digits to base 64, the last ones behind a mark that says how many there
are.  More digits come with a greater mark, and as many digits are greater where they first
differ.  So a greater character has greater octets, whatever stands behind them.
-/
import Mathlib
import CredentialGateway.Proofs.Text.Utf8

namespace CredentialGateway.Utf8

/-- The last digits of a number to base 64, as continuation octets. -/
def continuation : (count : Nat) → Nat → List UInt8
  | 0, _ => []
  | count + 1, v => UInt8.ofNat (0x80 + v / 64 ^ count % 64) :: continuation count v

/-- How many continuation octets a number needs. -/
def owed (v : Nat) : Nat :=
  if v < 0x80 then 0 else if v < 0x800 then 1 else if v < 0x10000 then 2 else 3

/-- What the first octet adds to the digits in it, given the number of those behind it. -/
def mark : Nat → Nat
  | 0 => 0
  | 1 => 0xC0
  | 2 => 0xE0
  | _ => 0xF0

theorem encodeChar_eq (c : Char) :
    encodeChar c = UInt8.ofNat (mark (owed c.toNat) + c.toNat / 64 ^ owed c.toNat) ::
      continuation (owed c.toNat) c.toNat := by
  unfold encodeChar owed
  dsimp only
  split_ifs <;> simp [mark, continuation]

theorem toNat_lt (c : Char) : c.toNat < 0x110000 := by
  have : c.toNat < 0xD800 ∨ 0xDFFF < c.toNat ∧ c.toNat < 0x110000 := c.valid
  omega

/-- The first octet is one, and more digits come with a greater one. -/
theorem first_lt {v w : Nat} (hw : w < 0x110000) (hle : v ≤ w) :
    mark (owed w) + w / 64 ^ owed w < 256 ∧
      (owed v = owed w ∨ mark (owed v) + v / 64 ^ owed v < mark (owed w) + w / 64 ^ owed w) := by
  unfold owed
  split_ifs <;> simp [mark] <;> omega

theorem ofNat_cons_lt {a b : Nat} {x y : List UInt8} (hb : b < 256) (h : a < b ∨ a = b ∧ x < y) :
    UInt8.ofNat a :: x < UInt8.ofNat b :: y := by
  rcases h with h | ⟨rfl, h⟩
  · refine List.cons_lt_cons_iff.mpr (.inl ?_)
    rw [UInt8.lt_iff_toNat_lt, UInt8.toNat_ofNat_of_lt' (h.trans hb), UInt8.toNat_ofNat_of_lt' hb]
    exact h
  · exact List.cons_lt_cons_iff.mpr (.inr ⟨rfl, h⟩)

theorem continuation_append_lt {v w : Nat} (x y : List UInt8) :
    ∀ {count : Nat}, v % 64 ^ count < w % 64 ^ count →
      continuation count v ++ x < continuation count w ++ y := by
  intro count
  induction count with
  | zero =>
      intro h
      simp [Nat.mod_one] at h
  | succ count ih =>
      intro h
      rw [pow_succ, Nat.mod_mul, Nat.mod_mul] at h
      refine ofNat_cons_lt (by omega) ?_
      rcases Nat.lt_trichotomy (v / 64 ^ count % 64) (w / 64 ^ count % 64) with
        hdigit | hdigit | hdigit
      · exact .inl (by omega)
      · rw [hdigit] at h ⊢
        exact .inr ⟨rfl, ih (by omega)⟩
      · have hmod : v % 64 ^ count < 64 ^ count := Nat.mod_lt _ (by positivity)
        have hmod' : w % 64 ^ count < 64 ^ count := Nat.mod_lt _ (by positivity)
        have hstep := Nat.mul_le_mul_left (64 ^ count) (Nat.succ_le_of_lt hdigit)
        rw [Nat.mul_succ] at hstep
        omega

/-- **The octets of a greater character are greater**, whatever stands behind them. -/
theorem encodeChar_append_lt {c d : Char} (h : c < d) (x y : List UInt8) :
    encodeChar c ++ x < encodeChar d ++ y := by
  have hlt : c.toNat < d.toNat := h
  obtain ⟨hoctet, hfirst⟩ := first_lt (toNat_lt d) hlt.le
  rw [encodeChar_eq, encodeChar_eq]
  refine ofNat_cons_lt hoctet ?_
  rcases hfirst with howed | hfirst
  · rw [howed]
    generalize owed d.toNat = count
    rcases Nat.lt_or_ge (c.toNat / 64 ^ count) (d.toNat / 64 ^ count) with hdigits | hdigits
    · exact .inl (by omega)
    · have hsame : c.toNat / 64 ^ count = d.toNat / 64 ^ count :=
        le_antisymm (Nat.div_le_div_right hlt.le) hdigits
      refine .inr ⟨by rw [hsame], continuation_append_lt x y ?_⟩
      have hc := Nat.div_add_mod c.toNat (64 ^ count)
      have hd := Nat.div_add_mod d.toNat (64 ^ count)
      rw [hsame] at hc
      omega
  · exact .inl hfirst

theorem encode_lt {cs ds : List Char} (h : cs < ds) : encode cs < encode ds := by
  induction h with
  | @nil d ds =>
      rw [encode_cons, encodeChar_eq]
      exact List.nil_lt_cons _ _
  | @cons c cs ds _ ih =>
      rw [encode_cons, encode_cons]
      exact List.append_left_lt ih
  | @rel c cs d ds hcd => exact encodeChar_append_lt hcd _ _

/-- **The order of texts is the order of their octets.** -/
theorem encodeString_lt_iff {s t : String} : encodeString s < encodeString t ↔ s < t := by
  rw [String.lt_iff_toList_lt]
  constructor
  · intro h
    rcases lt_trichotomy s.toList t.toList with hlt | heq | hgt
    · exact hlt
    · rw [encodeString, encodeString, heq] at h
      exact absurd h (List.lt_irrefl _)
    · exact absurd h (List.lt_asymm (encode_lt hgt))
  · exact encode_lt

end CredentialGateway.Utf8
