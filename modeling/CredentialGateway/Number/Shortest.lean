/-
The shortest decimal that reads back as a given number.

Every real number between the midpoints to the two neighbours of `x` is rounded to
`x`; the midpoints themselves are if the significand of `x` is even.  For one digit,
two digits and so on, the two points next to `x` on the grid of decimals with that
many digits are tried: if any point of the grid reads back as `x`, one of these two
does.  Of two that do, the nearer is taken, and the even one of two equally near.

All comparisons are between integers.  With `x = m * 2 ^ e`, everything is measured in
units of `2 ^ (e - 2)`, in which `x` is `4 * m` and both midpoints are integers.
-/
import CredentialGateway.Number.Binary64

namespace CredentialGateway

/-- The decimal `digits * 10 ^ exponent`. -/
structure Scientific where
  /-- The digits as an integer. -/
  digits : Nat
  /-- The power of ten they are multiplied with. -/
  exponent : Int
deriving DecidableEq

namespace Magnitude

/-- Whether a power of ten is at most the number. -/
def atLeastPower (x : Magnitude) (t : Int) : Bool :=
  x.toRatio.2 * Nat.pow 10 t.toNat ≤ x.toRatio.1 * Nat.pow 10 (-t).toNat

/-- The exponent of the greatest power of ten that is at most the number.  The estimate
from the binary logarithm is at most one off. -/
def decimalExponent (x : Magnitude) : Int :=
  let t := (((x.significand.log2 : Int) + x.exponent) * 30103).fdiv 100000
  if x.atLeastPower (t + 1) then t + 1
  else if x.atLeastPower t then t
  else t - 1

/-- The distance to the midpoint below, in quarters of the last place: half as far where
the numbers below lie closer together. -/
def quartersBelow (x : Magnitude) : Nat :=
  if x.significand = Nat.pow 2 52 ∧ minExponent < x.exponent then 1 else 2

/-- Whether the decimal `c * num / den`, in quarters of the last place, reads back as `x`. -/
def readsBack (x : Magnitude) (c num den : Nat) : Bool :=
  let low := (4 * x.significand - x.quartersBelow) * den
  let high := (4 * x.significand + 2) * den
  if x.significand % 2 = 0 then low ≤ c * num && c * num ≤ high
  else low < c * num && c * num < high

/-- A decimal on the grid `10 ^ g` that reads back as `x`, the nearest such one. -/
def onGrid? (x : Magnitude) (g : Int) : Option Nat :=
  let num := Nat.pow 10 g.toNat * Nat.pow 2 (2 - x.exponent).toNat
  let den := Nat.pow 10 (-g).toNat * Nat.pow 2 (x.exponent - 2).toNat
  let exact := 4 * x.significand * den
  let below := exact / num
  let fromBelow := exact - below * num
  let toAbove := (below + 1) * num - exact
  match x.readsBack below num den, x.readsBack (below + 1) num den with
  | true, true =>
    if fromBelow < toAbove then some below
    else if toAbove < fromBelow then some (below + 1)
    else if below % 2 = 0 then some below
    else some (below + 1)
  | true, false => some below
  | false, true => some (below + 1)
  | false, false => none

/-- Try ever finer grids, at most `tries` of them. -/
def finer (x : Magnitude) : (tries : Nat) → (g : Int) → Scientific
  | 0, g => ⟨0, g⟩
  | tries + 1, g =>
    match x.onGrid? g with
    | some c => ⟨c, g⟩
    | none => x.finer tries (g - 1)

/-- The shortest decimal of a positive number; seventeen digits are always enough. -/
def shortest (x : Magnitude) : Scientific :=
  x.finer 18 x.decimalExponent

end Magnitude

end CredentialGateway
