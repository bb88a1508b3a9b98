/-
What is computed as a public key is a point.

The points of the curve satisfy `y ^ 2 - x ^ 2 = 1 + d * x ^ 2 * y ^ 2`, which in extended
coordinates is an equation between two pairs of squares (`Point.IsOnCurve`).  One addition
keeps it, for all pairs of points and without a case, and so every multiple of the base
point has it.  From the equation `x ^ 2` is the ratio of `y ^ 2 - 1` and `d * y ^ 2 + 1`,
so the product of these two is a square, and that is what is tested of a `y` that is given
in octets.

No use is made of the fact that `z` is never zero.  Were it zero, the octets would be those
of `y = 0`, and minus one is a square in this field.
-/
import Mathlib
import CredentialGateway.Ed25519
import CredentialGateway.Proofs.Ed25519.Prime

namespace CredentialGateway.Ed25519

/-- The elements of the field of the curve. -/
abbrev Element : Type := ZMod prime

/-! ### Computing in the field -/

theorem mul_lt (a b : Nat) : mul a b < prime :=
  Nat.mod_lt _ prime_prime.pos

theorem power_lt {count exponent : Nat} (base : Nat) (h : exponent < 2 ^ count) :
    power count base exponent < prime := by
  rw [power_eq h]
  exact Nat.mod_lt _ prime_prime.pos

theorem cast_mul (a b : Nat) : (mul a b : Element) = a * b := by
  rw [mul, ZMod.natCast_mod, Nat.cast_mul]

theorem cast_sub {b : Nat} (a : Nat) (hb : b < prime) : (sub a b : Element) = a - b := by
  rw [sub, ZMod.natCast_mod, Nat.cast_add, Nat.cast_sub hb.le, ZMod.natCast_self, zero_sub,
    sub_eq_add_neg]

theorem cast_power {count exponent : Nat} (base : Nat) (h : exponent < 2 ^ count) :
    (power count base exponent : Element) = base ^ exponent := by
  rw [power_eq h, ZMod.natCast_mod, Nat.cast_pow]

/-- The inverse is the one of the field, that of zero included. -/
theorem cast_inverse (a : Nat) : (inverse a : Element) = (a : Element)⁻¹ := by
  have hbits : prime - 2 < 2 ^ 255 := by decide +kernel
  rw [inverse, cast_power a hbits]
  rcases eq_or_ne (a : Element) 0 with ha | ha
  · rw [ha, inv_zero, zero_pow (by decide +kernel)]
  · refine eq_inv_of_mul_eq_one_left ?_
    have hexponent : prime - 2 + 1 = prime - 1 := by decide +kernel
    rw [← pow_succ, hexponent, ZMod.pow_card_sub_one_eq_one ha]

/-- A number below the prime is known by its field element. -/
theorem eq_of_cast_eq {a b : Nat} (ha : a < prime) (hb : b < prime) (h : (a : Element) = b) :
    a = b :=
  Nat.ModEq.eq_of_lt_of_lt ((ZMod.natCast_eq_natCast_iff a b prime).mp h) ha hb

/-! ### The equation of the curve -/

/-- Addition keeps the equation of the curve. -/
theorem curve_add {d x₁ y₁ z₁ t₁ x₂ y₂ z₂ t₂ : Element} (hprod₁ : x₁ * y₁ = z₁ * t₁)
    (hcurve₁ : y₁ ^ 2 - x₁ ^ 2 = z₁ ^ 2 + d * t₁ ^ 2) (hprod₂ : x₂ * y₂ = z₂ * t₂)
    (hcurve₂ : y₂ ^ 2 - x₂ ^ 2 = z₂ ^ 2 + d * t₂ ^ 2) :
    ((z₁ * z₂ + d * t₁ * t₂) * (y₁ * y₂ + x₁ * x₂)) ^ 2 -
        ((x₁ * y₂ + y₁ * x₂) * (z₁ * z₂ - d * t₁ * t₂)) ^ 2 =
      ((z₁ * z₂ - d * t₁ * t₂) * (z₁ * z₂ + d * t₁ * t₂)) ^ 2 +
        d * ((x₁ * y₂ + y₁ * x₂) * (y₁ * y₂ + x₁ * x₂)) ^ 2 := by
  have hdiff : (y₁ * y₂ + x₁ * x₂) ^ 2 - (x₁ * y₂ + y₁ * x₂) ^ 2 =
      (z₁ ^ 2 + d * t₁ ^ 2) * (z₂ ^ 2 + d * t₂ ^ 2) := by
    rw [← hcurve₁, ← hcurve₂]
    ring
  have hsum : (y₁ * y₂ + x₁ * x₂) ^ 2 + (x₁ * y₂ + y₁ * x₂) ^ 2 =
      (y₁ ^ 2 + x₁ ^ 2) * (y₂ ^ 2 + x₂ ^ 2) + 4 * (z₁ * t₁) * (z₂ * t₂) := by
    rw [← hprod₁, ← hprod₂]
    ring
  have hcross : (x₁ * y₂ + y₁ * x₂) * (y₁ * y₂ + x₁ * x₂) =
      z₁ * t₁ * (y₂ ^ 2 + x₂ ^ 2) + z₂ * t₂ * (y₁ ^ 2 + x₁ ^ 2) := by
    rw [← hprod₁, ← hprod₂]
    ring
  have hsquare₁ : (y₁ ^ 2 + x₁ ^ 2) ^ 2 = (z₁ ^ 2 + d * t₁ ^ 2) ^ 2 + 4 * (z₁ * t₁) ^ 2 := by
    rw [← hcurve₁, ← hprod₁]
    ring
  have hsquare₂ : (y₂ ^ 2 + x₂ ^ 2) ^ 2 = (z₂ ^ 2 + d * t₂ ^ 2) ^ 2 + 4 * (z₂ * t₂) ^ 2 := by
    rw [← hcurve₂, ← hprod₂]
    ring
  -- with `z` and `t` alone on the right of these, what is left is an identity
  linear_combination (z₁ ^ 2 * z₂ ^ 2 + d ^ 2 * t₁ ^ 2 * t₂ ^ 2) * hdiff +
    2 * d * (z₁ * t₁) * (z₂ * t₂) * hsum -
    d * ((x₁ * y₂ + y₁ * x₂) * (y₁ * y₂ + x₁ * x₂) + z₁ * t₁ * (y₂ ^ 2 + x₂ ^ 2) +
      z₂ * t₂ * (y₁ ^ 2 + x₁ ^ 2)) * hcross -
    d * (z₁ * t₁) ^ 2 * hsquare₂ - d * (z₂ * t₂) ^ 2 * hsquare₁

/-! ### Points -/

namespace Point

/-- Whether extended coordinates are those of a point of the curve, each below the prime. -/
structure IsOnCurve (p : Point) : Prop where
  x_lt : p.x < prime
  y_lt : p.y < prime
  z_lt : p.z < prime
  t_lt : p.t < prime
  product : (p.x : Element) * p.y = p.z * p.t
  curve : (p.y : Element) ^ 2 - p.x ^ 2 = p.z ^ 2 + coefficient * p.t ^ 2

theorem isOnCurve_zero : zero.IsOnCurve where
  x_lt := prime_prime.pos
  y_lt := prime_prime.one_lt
  z_lt := prime_prime.one_lt
  t_lt := prime_prime.pos
  product := mul_comm _ _
  curve := by
    have hx : (zero.x : Element) = 0 := Nat.cast_zero
    have ht : (zero.t : Element) = 0 := Nat.cast_zero
    have hz : zero.z = zero.y := rfl
    rw [hx, ht, hz]
    ring

theorem isOnCurve_base : base.IsOnCurve where
  x_lt := by decide +kernel
  y_lt := by decide +kernel
  z_lt := prime_prime.one_lt
  t_lt := mul_lt _ _
  product := by
    have ht : base.t = mul base.x base.y := rfl
    have hz : base.z = 1 := rfl
    rw [ht, hz, cast_mul, Nat.cast_one, one_mul]
  curve := by
    have hsquares : sub (mul base.y base.y) (mul base.x base.x) =
        (mul base.z base.z + mul coefficient (mul base.t base.t)) % prime := by decide +kernel
    have hcast := congrArg (Nat.cast : Nat → Element) hsquares
    rw [cast_sub _ (mul_lt _ _), ZMod.natCast_mod, Nat.cast_add] at hcast
    simp only [cast_mul] at hcast
    linear_combination hcast

variable {p q : Point}

/-- The sum of two points in the field, up to a common factor. -/
theorem cast_add (hp : p.IsOnCurve) (hq : q.IsOnCurve) :
    let e : Element := p.x * q.y + p.y * q.x
    let f : Element := p.z * q.z - coefficient * p.t * q.t
    let g : Element := p.z * q.z + coefficient * p.t * q.t
    let h : Element := p.y * q.y + p.x * q.x
    ((p.add q).x : Element) = 4 * (e * f) ∧ ((p.add q).y : Element) = 4 * (g * h) ∧
      ((p.add q).z : Element) = 4 * (f * g) ∧ ((p.add q).t : Element) = 4 * (e * h) := by
  intro e f g h
  have hsub : ∀ a b c d, (sub (mul a b) (mul c d) : Element) = a * b - c * d := by
    intro a b c d
    rw [cast_sub _ (mul_lt c d), cast_mul, cast_mul]
  simp only [add, cast_mul, hsub, cast_sub _ hp.x_lt, cast_sub _ hq.x_lt, ZMod.natCast_mod,
    Nat.cast_add, Nat.cast_mul, Nat.cast_ofNat, e, f, g, h]
  refine ⟨?_, ?_, ?_, ?_⟩ <;> ring

/-- **The sum of two points is a point.** -/
theorem IsOnCurve.add (hp : p.IsOnCurve) (hq : q.IsOnCurve) : (p.add q).IsOnCurve := by
  obtain ⟨hx, hy, hz, ht⟩ := cast_add hp hq
  have hcurve := curve_add hp.product hp.curve hq.product hq.curve
  exact {
    x_lt := mul_lt _ _
    y_lt := mul_lt _ _
    z_lt := mul_lt _ _
    t_lt := mul_lt _ _
    product := by
      rw [hx, hy, hz, ht]
      ring
    curve := by
      rw [hx, hy, hz, ht]
      linear_combination 16 * hcurve }

/-- **Every multiple of a point is a point.** -/
theorem IsOnCurve.times {count : Nat} : ∀ {factor : Nat} {p : Point}, p.IsOnCurve →
    (times count factor p).IsOnCurve := by
  induction count with
  | zero => exact fun _ => isOnCurve_zero
  | succ count ih =>
      intro factor p hp
      rw [Point.times]
      split
      · exact hp.add (ih (hp.add hp))
      · exact ih (hp.add hp)

end Point

/-! ### Points as octets -/

theorem length_octetsOf (count n : Nat) : (octetsOf count n).length = count := by
  induction count generalizing n with
  | zero => rfl
  | succ count ih => rw [octetsOf, List.length_cons, ih]

theorem natOf_octetsOf {count n : Nat} (h : n < 256 ^ count) : natOf (octetsOf count n) = n := by
  induction count generalizing n with
  | zero =>
      rw [pow_zero, Nat.lt_one_iff] at h
      rw [h]
      rfl
  | succ count ih =>
      have hrest : n / 256 < 256 ^ count := by
        rw [pow_succ] at h
        omega
      have hoctet : (UInt8.ofNat (n % 256)).toNat = n % 256 :=
        UInt8.toNat_ofNat_of_lt' (Nat.mod_lt n (by omega))
      rw [octetsOf, natOf, ih hrest, hoctet]
      omega

theorem length_encodePoint (p : Point) : (encodePoint p).length = 32 :=
  length_octetsOf _ _

/-- The octets of a point have its `y` below the highest bit. -/
theorem natOf_encodePoint (p : Point) :
    natOf (encodePoint p) % Nat.pow 2 255 % prime = mul p.y (inverse p.z) := by
  have hy : mul p.y (inverse p.z) < prime := mul_lt _ _
  have hprime : prime < 2 ^ 255 := by decide +kernel
  have hbit : mul p.x (inverse p.z) % 2 < 2 := Nat.mod_lt _ (by omega)
  have hpow : Nat.pow 2 255 = 2 ^ 255 := rfl
  rw [encodePoint, natOf_octetsOf (by rw [hpow]; omega), hpow, Nat.add_mul_mod_self_right,
    Nat.mod_eq_of_lt (hy.trans hprime), Nat.mod_eq_of_lt hy]

/-- The power by which squares are told from other elements is at most one for a square. -/
theorem power_le_one {a : Nat} (h : IsSquare (a : Element)) :
    power 255 a ((prime - 1) / 2) ≤ 1 := by
  obtain ⟨root, hroot⟩ := h
  have hbits : (prime - 1) / 2 < 2 ^ 255 := by decide +kernel
  have hdouble : 2 * ((prime - 1) / 2) = prime - 1 := by decide +kernel
  have hlt := power_lt a hbits
  have hpower : (power 255 a ((prime - 1) / 2) : Element) = root ^ (prime - 1) := by
    rw [cast_power a hbits, hroot, ← sq, ← pow_mul, hdouble]
  rcases eq_or_ne root 0 with rfl | hne
  · rw [zero_pow (by decide +kernel), ← Nat.cast_zero] at hpower
    exact (eq_of_cast_eq hlt prime_prime.pos hpower).le.trans zero_le_one
  · rw [ZMod.pow_card_sub_one_eq_one hne, ← Nat.cast_one] at hpower
    exact (eq_of_cast_eq hlt prime_prime.one_lt hpower).le

/-- Of a point in the plane, the numerator and the denominator of `x ^ 2` have a square as their
product; where there is no point in the plane, `y` is taken to be zero. -/
theorem isSquare_of_isOnCurve {p : Point} (h : p.IsOnCurve) :
    let y : Element := p.y * (p.z : Element)⁻¹
    IsSquare ((y * y - 1) * (coefficient * (y * y) + 1)) := by
  intro y
  rcases eq_or_ne (p.z : Element) 0 with hz | hz
  · have hy : y = 0 := by simp only [y, hz, inv_zero, mul_zero]
    have hsquare : IsSquare (-1 : Element) := ZMod.exists_sq_eq_neg_one_iff.mpr (by decide +kernel)
    have hvalue : (y * y - 1) * (coefficient * (y * y) + 1) = -1 := by
      rw [hy]
      ring
    rwa [hvalue]
  · have hnum : y * y - 1 =
        (p.x * (p.z : Element)⁻¹) ^ 2 * (coefficient * (y * y) + 1) := by
      have ht : (p.t : Element) = p.x * p.y * (p.z : Element)⁻¹ := by
        rw [h.product]
        field_simp
      have hcurve := h.curve
      rw [ht] at hcurve
      simp only [y]
      field_simp
      field_simp at hcurve
      linear_combination hcurve
    rw [hnum]
    exact ⟨p.x * (p.z : Element)⁻¹ * (coefficient * (y * y) + 1), by ring⟩

/-- **The octets of a point are taken for those of a point.** -/
theorem isPoint_encodePoint {p : Point} (h : p.IsOnCurve) : isPoint (encodePoint p) = true := by
  have hsquare := isSquare_of_isOnCurve h
  rw [isPoint, natOf_encodePoint, decide_eq_true_eq]
  apply power_le_one
  rw [cast_mul, cast_sub _ prime_prime.one_lt, ZMod.natCast_mod, Nat.cast_add, Nat.cast_one]
  simp only [cast_mul, cast_inverse]
  exact hsquare

/-! ### Public keys -/

theorem length_publicKey (seed : List UInt8) : (publicKey seed).length = 32 :=
  length_encodePoint _

/-- **The public key of every seed is a point.** -/
theorem isPoint_publicKey (seed : List UInt8) : isPoint (publicKey seed) = true :=
  isPoint_encodePoint Point.isOnCurve_base.times

end CredentialGateway.Ed25519
