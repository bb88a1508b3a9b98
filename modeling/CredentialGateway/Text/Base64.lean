/-
Base64, strict.

Three octets are four symbols; at the end one octet is two symbols and two octets
are three, with the unused bits zero.  Whether the last group is filled up with
`=` is fixed by the variant: padding is either required or forbidden.

Reading reports the first fault it meets.  All groups of four but the last hold
symbols only; the last group, of one to four octets, may end in padding.  One
fault is looked for ahead of all others: when one octet is left over behind the
groups of four and is neither a symbol nor padding, that octet is reported.
-/
import CredentialGateway.Text.Cut

namespace CredentialGateway.Base64

/-- A kind of Base64: its two last symbols, and whether it is padded. -/
structure Variant where
  /-- The symbol for 62. -/
  symbol62 : UInt8
  /-- The symbol for 63. -/
  symbol63 : UInt8
  /-- Whether the last group is filled up with `=`. -/
  padded : Bool

/-- The variant with `+` and `/`, padded. -/
def standard : Variant := ⟨43, 47, true⟩

/-- The variant with `-` and `_`, which is safe inside URLs, without padding. -/
def urlSafe : Variant := ⟨45, 95, false⟩

/-- The padding octet. -/
def pad : UInt8 := 61

/-- Why a text is not Base64. -/
inductive Fault where
  /-- An octet that is no symbol, or padding where none can stand. -/
  | symbol (octet : UInt8) (offset : Nat)
  /-- One symbol too many; the number of symbols. -/
  | length (symbols : Nat)
  /-- The last symbol sets bits that belong to no octet. -/
  | lastSymbol (octet : UInt8) (offset : Nat)
  /-- Padding is missing, short or not allowed. -/
  | padding
deriving DecidableEq

/-- The fault in words. -/
def Fault.message : Fault → String
  | .symbol octet offset =>
    "Invalid symbol " ++ toString octet.toNat ++ ", offset " ++ toString offset ++ "."
  | .length symbols => "Invalid input length: " ++ toString symbols
  | .lastSymbol octet offset =>
    "Invalid last symbol " ++ toString octet.toNat ++ ", offset " ++ toString offset ++ "."
  | .padding => "Invalid padding"

namespace Variant

/-- The symbol of a six-bit value. -/
def symbol (v : Variant) (n : Nat) : UInt8 :=
  if n < 26 then UInt8.ofNat (65 + n)
  else if n < 52 then UInt8.ofNat (71 + n)
  else if n < 62 then UInt8.ofNat (n - 4)
  else if n = 62 then v.symbol62
  else v.symbol63

/-- The six-bit value of a symbol. -/
def value? (v : Variant) (b : UInt8) : Option Nat :=
  let n := b.toNat
  if 65 ≤ n ∧ n ≤ 90 then some (n - 65)
  else if 97 ≤ n ∧ n ≤ 122 then some (n - 71)
  else if 48 ≤ n ∧ n ≤ 57 then some (n + 4)
  else if b = v.symbol62 then some 62
  else if b = v.symbol63 then some 63
  else none

/-- Padding octets, if the variant has them. -/
def padding (v : Variant) (count : Nat) : List UInt8 :=
  if v.padded then List.replicate count pad else []

/-- The symbols of an octet sequence. -/
def encode (v : Variant) : List UInt8 → List UInt8
  | [] => []
  | [a] =>
    v.symbol (a.toNat / 4) :: v.symbol (a.toNat % 4 * 16) :: v.padding 2
  | [a, b] =>
    v.symbol (a.toNat / 4) :: v.symbol (a.toNat % 4 * 16 + b.toNat / 16) ::
      v.symbol (b.toNat % 16 * 4) :: v.padding 1
  | a :: b :: c :: rest =>
    v.symbol (a.toNat / 4) :: v.symbol (a.toNat % 4 * 16 + b.toNat / 16) ::
      v.symbol (b.toNat % 16 * 4 + c.toNat / 64) :: v.symbol (c.toNat % 64) :: v.encode rest

/-- The value of a symbol at an offset. -/
def valueAt (v : Variant) (offset : Nat) (b : UInt8) : Except Fault Nat :=
  match v.value? b with
  | some n => .ok n
  | none => .error (.symbol b offset)

/-- The values of the symbols at and behind an offset. -/
def valuesFrom (v : Variant) : (offset : Nat) → List UInt8 → Except Fault (List Nat)
  | _, [] => .ok []
  | offset, b :: rest => do
    let n ← v.valueAt offset b
    let ns ← v.valuesFrom (offset + 1) rest
    return n :: ns

/-- The symbols of the last group and its padding.  Padding that stands before the third
place, or has a symbol behind it, is reported as a symbol out of place. -/
def lastGroup (v : Variant) (offset : Nat) (group : List UInt8) :
    Except Fault (List Nat × Nat) := do
  let symbols := group.takeWhile fun b => b != pad
  let tail := group.drop symbols.length
  let values ← v.valuesFrom offset symbols
  if tail.isEmpty then return (values, 0)
  if symbols.length < 2 || tail.any fun b => b != pad then
    throw (.symbol pad (offset + symbols.length))
  return (values, tail.length)

/-- The octets of the last group: two symbols are one octet, three are two. -/
def lastOctets (offset : Nat) (last : UInt8) : List Nat → Except Fault (List UInt8)
  | [a, b] =>
    if b % 16 = 0 then .ok [UInt8.ofNat (a * 4 + b / 16)]
    else .error (.lastSymbol last (offset + 1))
  | [a, b, c] =>
    if c % 4 = 0 then
      .ok [UInt8.ofNat (a * 4 + b / 16), UInt8.ofNat (b % 16 * 16 + c / 4)]
    else .error (.lastSymbol last (offset + 2))
  | [a, b, c, d] =>
    .ok [UInt8.ofNat (a * 4 + b / 16), UInt8.ofNat (b % 16 * 16 + c / 4),
      UInt8.ofNat (c % 4 * 64 + d)]
  | _ => .ok []

/-- Read the last group, which holds one to four octets. -/
def decodeLast (v : Variant) (offset : Nat) (group : List UInt8) : Except Fault (List UInt8) := do
  let (values, pads) ← v.lastGroup offset group
  if values.length < 2 then throw (.length (offset + values.length))
  if v.padded then
    if values.length + pads ≠ 4 then throw .padding
  else
    if pads ≠ 0 then throw .padding
  lastOctets offset (group.getD (values.length - 1) 0) values

/-- Read groups of four as long as something follows, then the last group. -/
def decodeGroups (v : Variant) : (offset : Nat) → List UInt8 → Except Fault (List UInt8)
  | _, [] => .ok []
  | offset, a :: b :: c :: d :: e :: rest => do
    let w ← v.valueAt offset a
    let x ← v.valueAt (offset + 1) b
    let y ← v.valueAt (offset + 2) c
    let z ← v.valueAt (offset + 3) d
    let octets ← v.decodeGroups (offset + 4) (e :: rest)
    return UInt8.ofNat (w * 4 + x / 16) :: UInt8.ofNat (x % 16 * 16 + y / 4) ::
      UInt8.ofNat (y % 4 * 64 + z) :: octets
  | offset, group => v.decodeLast offset group

/-- The single octet behind complete groups of four, when it can be no part of Base64. -/
def strayEnd? (v : Variant) (text : List UInt8) : Option Fault :=
  if text.length % 4 = 1 then
    match text.getLast? with
    | some b =>
      if b ≠ pad ∧ v.value? b = none then some (.symbol b (text.length - 1)) else none
    | none => none
  else none

/-- The octets that a text writes. -/
def decode (v : Variant) (text : List UInt8) : Except Fault (List UInt8) :=
  match v.strayEnd? text with
  | some fault => .error fault
  | none => v.decodeGroups 0 text

end Variant

/-- The symbols of an octet sequence, as a string. -/
def encodeString (v : Variant) (bytes : List UInt8) : String :=
  String.ofList ((v.encode bytes).map fun b => Char.ofNat b.toNat)

end CredentialGateway.Base64
