/-
The curve of Ed25519.

Field elements are natural numbers below the prime `2 ^ 255 - 19`.  Points are kept in
extended coordinates `(X : Y : Z : T)` with `x = X / Z`, `y = Y / Z` and `x * y = T / Z`,
for which one addition formula serves all pairs of points, so that doubling needs no
case of its own.
-/
import CredentialGateway.Digest.Sha2

namespace CredentialGateway.Ed25519

/-- The prime of the field. -/
def prime : Nat := Nat.pow 2 255 - 19

/-- The order of the base point. -/
def order : Nat := Nat.pow 2 252 + 27742317777372353535851937790883648493

/-- Multiplication in the field. -/
def mul (a b : Nat) : Nat := a * b % prime

/-- Subtraction in the field. -/
def sub (a b : Nat) : Nat := (a + (prime - b)) % prime

/-- The power of a field element; `count` is at least the number of bits of the exponent. -/
def power : (count : Nat) → (base exponent : Nat) → Nat
  | 0, _, _ => 1
  | count + 1, base, exponent =>
    let rest := power count (mul base base) (exponent / 2)
    if exponent % 2 = 1 then mul base rest else rest

/-- The inverse of a field element; that of zero is zero. -/
def inverse (a : Nat) : Nat := power 255 a (prime - 2)

/-- The constant of the curve, `-121665 / 121666`. -/
def coefficient : Nat := mul (prime - 121665) (inverse 121666)

/-- A point in extended coordinates. -/
structure Point where
  /-- The numerator of `x`. -/
  x : Nat
  /-- The numerator of `y`. -/
  y : Nat
  /-- The common denominator. -/
  z : Nat
  /-- The numerator of `x * y`. -/
  t : Nat

namespace Point

/-- The neutral point. -/
def zero : Point := ⟨0, 1, 1, 0⟩

/-- The base point, by its coordinates. -/
def base : Point :=
  let x := 15112221349535400772501151409588531511454012693041857206046113283949847762202
  let y := 46316835694926478169428394003475163141307993866256225615783033603165251855960
  ⟨x, y, 1, mul x y⟩

/-- The sum of two points. -/
def add (p q : Point) : Point :=
  let a := mul (sub p.y p.x) (sub q.y q.x)
  let b := mul (p.y + p.x) (q.y + q.x)
  let c := mul (mul p.t (2 * coefficient % prime)) q.t
  let d := mul (2 * p.z) q.z
  let e := sub b a
  let f := sub d c
  let g := (d + c) % prime
  let h := (b + a) % prime
  ⟨mul e f, mul g h, mul f g, mul e h⟩

/-- A multiple of a point; `count` is at least the number of bits of the factor. -/
def times : (count : Nat) → (factor : Nat) → Point → Point
  | 0, _, _ => zero
  | count + 1, factor, p =>
    let rest := times count (factor / 2) (add p p)
    if factor % 2 = 1 then add p rest else rest

end Point

/-- Little-endian octets of a number. -/
def octetsOf : (count : Nat) → Nat → List UInt8
  | 0, _ => []
  | count + 1, n => UInt8.ofNat (n % 256) :: octetsOf count (n / 256)

/-- The number that little-endian octets write. -/
def natOf : List UInt8 → Nat
  | [] => 0
  | b :: rest => b.toNat + 256 * natOf rest

/-- The 32 octets of a point: `y`, with the lowest bit of `x` as the highest bit. -/
def encodePoint (p : Point) : List UInt8 :=
  let i := inverse p.z
  octetsOf 32 (mul p.y i + mul p.x i % 2 * Nat.pow 2 255)

/-- Whether 32 octets write the `y` of a point: whether the `x * x` that belongs to it, a
ratio of field elements, has a root. -/
def isPoint (bytes : List UInt8) : Bool :=
  let y := natOf bytes % Nat.pow 2 255 % prime
  let num := sub (mul y y) 1
  let den := (mul coefficient (mul y y) + 1) % prime
  power 255 (mul num den) ((prime - 1) / 2) ≤ 1

end CredentialGateway.Ed25519
