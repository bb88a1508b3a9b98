/-
The prime of the field is a prime, and its powers are taken by squaring.

A number `n` is prime if some number has the order `n - 1` modulo `n` (Lucas's test), and
for that it suffices to look at the powers `n - 1` and `(n - 1) / q` for the prime factors
`q` of `n - 1`.  The prime factors that are large are shown to be prime in the same way, so
a proof that a number is prime is a list of numbers, each with its root and its factors.
Both this test and the field of the curve take powers by squaring, which the kernel can
compute for exponents of 255 bits.
-/
import Mathlib
import CredentialGateway.Ed25519.Curve

namespace CredentialGateway.Ed25519

/-! ### Powers -/

/-- The power of a number modulo another; `count` is at least the number of bits of the
exponent. -/
def powerMod (modulus : Nat) : (count : Nat) → (base exponent : Nat) → Nat
  | 0, _, _ => 1 % modulus
  | count + 1, base, exponent =>
    let rest := powerMod modulus count (base * base % modulus) (exponent / 2)
    if exponent % 2 = 1 then base * rest % modulus else rest

theorem powerMod_eq (modulus : Nat) {count : Nat} : ∀ {base exponent : Nat}, exponent < 2 ^ count →
    powerMod modulus count base exponent = base ^ exponent % modulus := by
  induction count with
  | zero =>
      intro base exponent h
      obtain rfl : exponent = 0 := by omega
      rw [powerMod, pow_zero]
  | succ count ih =>
      intro base exponent h
      have hhalf : exponent / 2 < 2 ^ count := by
        rw [pow_succ] at h
        omega
      have hrest : powerMod modulus count (base * base % modulus) (exponent / 2) =
          base ^ (2 * (exponent / 2)) % modulus := by
        rw [ih hhalf, ← Nat.pow_mod, pow_mul, sq]
      rw [powerMod, hrest]
      split
      · have hodd : exponent = 2 * (exponent / 2) + 1 := by omega
        conv_rhs => rw [hodd, pow_succ']
        rw [Nat.mul_mod_mod]
      · have heven : exponent = 2 * (exponent / 2) := by omega
        rw [← heven]

/-- The powers of the field are powers modulo its prime. -/
theorem power_eq_powerMod (count : Nat) : ∀ base exponent : Nat,
    power count base exponent = powerMod prime count base exponent := by
  induction count with
  | zero => exact fun _ _ => rfl
  | succ count ih =>
      intro base exponent
      rw [power, ih]
      rfl

theorem power_eq {count base exponent : Nat} (h : exponent < 2 ^ count) :
    power count base exponent = base ^ exponent % prime := by
  rw [power_eq_powerMod, powerMod_eq prime h]

/-! ### Numbers shown to be prime -/

/-- What shows a number to be prime. -/
structure Certificate where
  /-- The number. -/
  number : Nat
  /-- A number of order `number - 1` modulo the number. -/
  root : Nat
  /-- The prime factors of `number - 1`, each as often as it divides. -/
  factors : List Nat

/-- Whether a certificate shows its number to be prime, once the known numbers are. -/
def Certificate.holds (c : Certificate) (known : List Nat) : Bool :=
  1 < c.number && c.number < 2 ^ 255 && c.factors.prod == c.number - 1 &&
    c.factors.all (fun q => known.contains q) &&
    powerMod c.number 255 c.root (c.number - 1) == 1 &&
    c.factors.all fun q => powerMod c.number 255 c.root ((c.number - 1) / q) != 1

/-- Whether each of the certificates holds once the known numbers and those before it are prime. -/
def hold : (known : List Nat) → List Certificate → Bool
  | _, [] => true
  | known, c :: rest => c.holds known && hold (c.number :: known) rest

theorem cast_pow_eq_one_iff {n : Nat} (hn : 1 < n) (root exponent : Nat) :
    (root : ZMod n) ^ exponent = 1 ↔ root ^ exponent % n = 1 := by
  rw [← Nat.cast_pow, ← Nat.cast_one, ZMod.natCast_eq_natCast_iff', Nat.mod_eq_of_lt hn]

theorem Certificate.prime_of_holds {c : Certificate} {known : List Nat}
    (hknown : ∀ q ∈ known, q.Prime) (h : c.holds known = true) : c.number.Prime := by
  simp only [holds, Bool.and_eq_true, decide_eq_true_eq, beq_iff_eq, List.all_eq_true,
    List.contains_iff_mem, bne_iff_ne] at h
  obtain ⟨⟨⟨⟨⟨hpos, hlt⟩, hprod⟩, hfactors⟩, hone⟩, hne⟩ := h
  have hbits : c.number - 1 < 2 ^ 255 := by omega
  refine lucas_primality c.number (c.root : ZMod c.number) ?_ ?_
  · rw [cast_pow_eq_one_iff hpos, ← powerMod_eq c.number hbits]
    exact hone
  · intro q hq hdvd
    rw [← hprod] at hdvd
    obtain ⟨factor, hfactor, hdvd⟩ := (Prime.dvd_prod_iff hq.prime).mp hdvd
    obtain rfl : q = factor :=
      (Nat.prime_dvd_prime_iff_eq hq (hknown factor (hfactors factor hfactor))).mp hdvd
    have hless : (c.number - 1) / q < 2 ^ 255 := (Nat.div_le_self (c.number - 1) q).trans_lt hbits
    rw [ne_eq, cast_pow_eq_one_iff hpos, ← powerMod_eq c.number hless]
    exact hne q hfactor

/-- **All numbers of certificates that hold are prime.** -/
theorem prime_of_hold {certificates : List Certificate} : ∀ {known : List Nat},
    (∀ q ∈ known, q.Prime) → hold known certificates = true →
      ∀ c ∈ certificates, c.number.Prime := by
  induction certificates with
  | nil => exact fun _ _ => List.forall_mem_nil _
  | cons c rest ih =>
      intro known hknown h
      rw [hold, Bool.and_eq_true] at h
      have hc := Certificate.prime_of_holds hknown h.1
      exact List.forall_mem_cons.mpr ⟨hc, ih (List.forall_mem_cons.mpr ⟨hc, hknown⟩) h.2⟩

/-! ### The prime of the field -/

/-- Small prime factors. -/
def smallFactors : List Nat :=
  [2, 3, 5, 7, 13, 19, 31, 47, 107, 127, 223, 353, 2437, 4153, 57467, 65147, 75707, 132049, 430751,
    569003, 1923133, 8574133]

theorem prime_of_mem_smallFactors : ∀ q ∈ smallFactors, q.Prime := by
  simp only [smallFactors, List.forall_mem_cons]
  norm_num

/-- What shows the prime of the field to be prime, with its large factors in front. -/
def certificates : List Certificate :=
  [⟨2773320623, 5, [2, 2437, 569003]⟩,
    ⟨72106336199, 7, [2, 13, 2773320623]⟩,
    ⟨1919519569386763, 2, [2, 3, 7, 19, 47, 47, 127, 8574133]⟩,
    ⟨75445702479781427272750846543864801, 7,
      [2, 2, 2, 2, 2, 3, 3, 5, 5, 75707, 72106336199, 1919519569386763]⟩,
    ⟨31757755568855353, 10, [2, 2, 2, 3, 31, 107, 223, 4153, 430751]⟩,
    ⟨74058212732561358302231226437062788676166966415465897661863160754340907, 2,
      [2, 3, 353, 57467, 132049, 1923133, 31757755568855353,
        75445702479781427272750846543864801]⟩,
    ⟨prime, 2,
      [2, 2, 3, 65147, 74058212732561358302231226437062788676166966415465897661863160754340907]⟩]

/-- **The number of elements of the field is a prime.** -/
theorem prime_prime : prime.Prime := by
  have hhold : hold smallFactors certificates = true := by decide +kernel
  have hall := prime_of_hold prime_of_mem_smallFactors hhold
  have hlast : (certificates.map Certificate.number).getLast? = some prime := rfl
  obtain ⟨c, hc, hnumber⟩ := List.mem_map.mp (List.mem_of_getLast? hlast)
  exact hnumber ▸ hall c hc

instance : Fact prime.Prime := ⟨prime_prime⟩

end CredentialGateway.Ed25519
