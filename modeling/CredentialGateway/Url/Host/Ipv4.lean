/-
IPv4 addresses in all the forms a URL may write them.

A host whose last part is a number is such an address: one to four numbers, decimal,
octal behind a `0` or hexadecimal behind `0x`, where the last number fills all the
octets that the others leave.
-/
import CredentialGateway.Text.Cut
import CredentialGateway.Text.Hex

namespace CredentialGateway.Url.Ipv4

/-- The number that digits of a base write. -/
def ofDigits? (base : Nat) (ds : List Char) : Option Nat :=
  ds.foldl (fun sofar c =>
    match sofar, Hex.value? c with
    | some n, some d => if d < base then some (n * base + d) else none
    | _, _ => none) (some 0)

/-- The number of one part; the empty part is none. -/
def number? : List Char → Option Nat
  | [] => none
  | '0' :: 'x' :: ds => ofDigits? 16 ds
  | '0' :: 'X' :: ds => ofDigits? 16 ds
  | '0' :: d :: ds => ofDigits? 8 (d :: ds)
  | ds => ofDigits? 10 ds

/-- The parts between points; a point at the end adds none. -/
def parts (host : List Char) : List (List Char) :=
  let ps := Text.pieces '.' host
  if ps.getLast? = some [] then ps.dropLast else ps

/-- Whether the last part of a host is a number, by its digits or by its form. -/
def endsInNumber (host : List Char) : Bool :=
  match (parts host).getLast? with
  | none => false
  | some last =>
    (!last.isEmpty && last.all fun c => c.isDigit) || (number? last).isSome

/-- The address of the numbers before the last one, which are octets, and the last one. -/
def combine? (front : List Nat) (last : Nat) : Option Nat :=
  if front.length ≤ 3 ∧ front.all (fun n => n ≤ 255) ∧ last < Nat.pow 256 (4 - front.length) then
    some ((front.foldl (fun n octet => n * 256 + octet) 0) * Nat.pow 256 (4 - front.length) + last)
  else none

/-- The address that a host writes. -/
def parse? (host : List Char) : Option Nat := do
  let numbers ← (parts host).mapM number?
  combine? numbers.dropLast (← numbers.getLast?)

/-- The address as four decimal octets. -/
def render (n : Nat) : List Char :=
  Nat.toDigits 10 (n / 16777216 % 256) ++ '.' :: Nat.toDigits 10 (n / 65536 % 256) ++
    '.' :: Nat.toDigits 10 (n / 256 % 256) ++ '.' :: Nat.toDigits 10 (n % 256)

end CredentialGateway.Url.Ipv4
