/-
JSON values, and what the numbers of a text mean.

A number without fraction and exponent is an integer as long as it fits a 64-bit word,
signed or unsigned; every other number is a double.  A double is found the quick
way: the digits that fit an unsigned 64-bit word are taken as an integer, those
behind them only count for the exponent, and the integer is multiplied with or
divided by one power of ten.  That rounds up to three times, so the result can be
a neighbour of the nearest double.

The members of an object keep one member for each name, sorted by name.
-/
import CredentialGateway.Json.Written
import CredentialGateway.Number.Binary64

namespace CredentialGateway

/-- A JSON value. -/
inductive Json where
  /-- The null value. -/
  | null
  /-- A truth value. -/
  | bool (b : Bool)
  /-- An integer. -/
  | integer (n : Int)
  /-- A double. -/
  | double (x : Binary64)
  /-- A string. -/
  | string (s : String)
  /-- An array. -/
  | array (items : List Json)
  /-- An object, as its members in the order in which they are written. -/
  | object (members : List (String × Json))

namespace Json

/-- The greatest unsigned 64-bit word. -/
def maxWord : Nat := UInt64.size - 1

/-! ### Numbers -/

/-- A significand being read, and the power of ten that it still lacks. -/
structure Partial where
  /-- The digits taken so far, as an integer. -/
  significand : Nat
  /-- The power of ten to be applied. -/
  exponent : Int

/-- Take digits before the point while the integer fits a word, then count them. -/
def Partial.whole (p : Partial) : List Nat → Partial
  | [] => p
  | d :: ds =>
    if p.significand * 10 + d ≤ maxWord then
      Partial.whole ⟨p.significand * 10 + d, p.exponent⟩ ds
    else ⟨p.significand, p.exponent + (ds.length + 1)⟩

/-- Take digits behind the point while the integer fits a word, then drop them. -/
def Partial.fraction (p : Partial) : List Nat → Partial
  | [] => p
  | d :: ds =>
    if p.significand * 10 + d ≤ maxWord then
      Partial.fraction ⟨p.significand * 10 + d, p.exponent - 1⟩ ds
    else p

/-- The integer that digits write. -/
def natOfDigits (ds : List Nat) : Nat :=
  ds.foldl (fun n d => n * 10 + d) 0

/-- The greatest exponent that is read; a greater one is as good as infinite. -/
def maxExponent : Nat := UInt32.size / 2 - 1

/-- The double nearest to a power of ten; powers past `10 ^ 308` are not asked for. -/
def powerOfTen (k : Nat) : Magnitude :=
  (Magnitude.ofRatio? (Nat.pow 10 k) 1).getD .zero

/-- Multiply a significand with a power of ten, or divide it by one, the way the exponent
says.  Powers past `10 ^ 308` divide in two steps; what is further down is zero, since a
significand is below `2 ^ 64`. -/
def scaled? (significand : Nat) (exponent : Int) : Option Magnitude := do
  let x ← Magnitude.ofRatio? significand 1
  let k := exponent.natAbs
  if significand = 0 then return .zero
  else if 0 ≤ exponent then
    if k ≤ 308 then x.mul? (powerOfTen k) else none
  else if k ≤ 308 then x.div? (powerOfTen k)
  else if k ≤ 616 then (← x.div? (powerOfTen 308)).div? (powerOfTen (k - 308))
  else return .zero

/-- The magnitude of a number with an exponent behind the digits. -/
def withExponent? (p : Partial) (exponent : Bool × List Nat) : Option Magnitude :=
  let n := natOfDigits exponent.2
  if maxExponent < n then
    if p.significand ≠ 0 ∧ exponent.1 = false then none else some .zero
  else scaled? p.significand (if exponent.1 then p.exponent - n else p.exponent + n)

/-- The magnitude of a number that is read as a double. -/
def magnitude? (n : NumberText) : Option Magnitude :=
  let p := (Partial.whole ⟨0, 0⟩ n.whole).fraction (n.fraction.getD [])
  match n.exponent with
  | none => scaled? p.significand p.exponent
  | some e => withExponent? p e

/-- The integer of a number without fraction and exponent, if it fits a word.  Zero with a
minus sign is not an integer. -/
def integer? (n : NumberText) : Option Int :=
  if n.fraction.isSome || n.exponent.isSome then none
  else
    let v := natOfDigits n.whole
    if n.negative then
      if 0 < v ∧ v ≤ UInt64.size / 2 then some (-(v : Int)) else none
    else if v ≤ maxWord then some v
    else none

/-- The value of a number; nothing if it lies beyond the greatest double. -/
def ofNumber? (n : NumberText) : Option Json :=
  match integer? n with
  | some i => some (.integer i)
  | none => (magnitude? n).map fun x => .double ⟨n.negative, x⟩

/-! ### Objects -/

/-- Put a member into a list sorted by name; it takes the place of one with its name. -/
def insert (name : String) (value : Json) : List (String × Json) → List (String × Json)
  | [] => [(name, value)]
  | (k, v) :: rest =>
    if name < k then (name, value) :: (k, v) :: rest
    else if name = k then (name, value) :: rest
    else (k, v) :: insert name value rest

/-- The members in the order of their names; of those with one name the last. -/
def sortMembers (members : List (String × Json)) : List (String × Json) :=
  members.foldl (fun sorted (name, value) => insert name value sorted) []

/-! ### From texts -/

mutual

/-- The value of a text, nested at most `depth` deep. -/
def ofWritten? : (depth : Nat) → Written → Option Json
  | _, .null => some .null
  | _, .bool b => some (.bool b)
  | _, .number n => ofNumber? n
  | _, .string ps => (pieceString? ps).map .string
  | 0, .array _ => none
  | depth + 1, .array items => (itemsOf? depth items).map .array
  | 0, .object _ => none
  | depth + 1, .object members =>
    (membersOf? depth members).map fun ms => .object (sortMembers ms)

/-- The values of an array's items. -/
def itemsOf? : (depth : Nat) → List Written → Option (List Json)
  | _, [] => some []
  | depth, w :: ws =>
    match ofWritten? depth w, itemsOf? depth ws with
    | some v, some vs => some (v :: vs)
    | _, _ => none

/-- The names and values of an object's members, in their order. -/
def membersOf? : (depth : Nat) → List (List Piece × Written) → Option (List (String × Json))
  | _, [] => some []
  | depth, (ps, w) :: ms =>
    match pieceString? ps, ofWritten? depth w, membersOf? depth ms with
    | some name, some v, some vs => some ((name, v) :: vs)
    | _, _, _ => none

end

/-- How deep arrays and objects may be nested in one another. -/
def maxDepth : Nat := 127

/-- The value of a whole text. -/
def parse? (bs : List UInt8) : Option Json :=
  (Written.parse? bs).bind (ofWritten? maxDepth)

end Json

end CredentialGateway
