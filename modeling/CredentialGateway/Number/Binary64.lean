/-
Binary floating point with 53 significant bits, in exact arithmetic.

A finite number is `significand * 2 ^ exponent` with a sign.  The one thing to know
about such numbers is how a ratio is rounded to one, `Magnitude.ofRatio?`: to the
nearest, and to the even one of two that are equally near.  Products and quotients
are taken exactly and rounded once.
-/

namespace CredentialGateway

/-- The integer nearest to a quotient, the even one when two are equally near. -/
def roundDiv (num den : Nat) : Nat :=
  let q := num / den
  let r := num % den
  if 2 * r < den then q
  else if den < 2 * r then q + 1
  else if q % 2 = 0 then q
  else q + 1

/-- A finite number without its sign.  The significand is below `2 ^ 53`; it is at least
`2 ^ 52` unless the exponent is the least there is. -/
structure Magnitude where
  /-- The significant bits as an integer. -/
  significand : Nat
  /-- The power of two they are multiplied with. -/
  exponent : Int
deriving DecidableEq

namespace Magnitude

/-- The least exponent. -/
def minExponent : Int := -1074

/-- The greatest exponent. -/
def maxExponent : Int := 971

/-- Zero. -/
def zero : Magnitude := ⟨0, minExponent⟩

/-- The number as a ratio of integers. -/
def toRatio (x : Magnitude) : Nat × Nat :=
  (x.significand * Nat.pow 2 x.exponent.toNat, Nat.pow 2 (-x.exponent).toNat)

/-- The exponent that gives a positive ratio 53 significant bits, or the least one. -/
def exponentFor (num den : Nat) : Int :=
  let guess : Int := (num.log2 : Int) - (den.log2 : Int) - 52
  let short := num * Nat.pow 2 (-guess).toNat < Nat.pow 2 52 * (den * Nat.pow 2 guess.toNat)
  max minExponent (if short then guess - 1 else guess)

/-- The number nearest to a ratio; nothing if it lies beyond the greatest number. -/
def ofRatio? (num den : Nat) : Option Magnitude :=
  if num = 0 then some zero
  else
    let e := exponentFor num den
    let s := roundDiv (num * Nat.pow 2 (-e).toNat) (den * Nat.pow 2 e.toNat)
    let x : Magnitude := if s = Nat.pow 2 53 then ⟨Nat.pow 2 52, e + 1⟩ else ⟨s, e⟩
    if x.exponent ≤ maxExponent then some x else none

/-- The product, rounded. -/
def mul? (x y : Magnitude) : Option Magnitude :=
  ofRatio? (x.toRatio.1 * y.toRatio.1) (x.toRatio.2 * y.toRatio.2)

/-- The quotient by a positive number, rounded. -/
def div? (x y : Magnitude) : Option Magnitude :=
  ofRatio? (x.toRatio.1 * y.toRatio.2) (x.toRatio.2 * y.toRatio.1)

end Magnitude

/-- A finite number with a sign; zero has one too. -/
structure Binary64 where
  /-- Whether the sign is minus. -/
  negative : Bool
  /-- The number without its sign. -/
  magnitude : Magnitude
deriving DecidableEq

end CredentialGateway
