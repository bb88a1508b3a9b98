/-
IPv6 addresses: eight numbers of 16 bits.

Two colons stand for at least one zero and may occur once; the last two numbers may be
written as an IPv4 address.  The written form shortens the first of the longest runs
of at least two zeros.
-/
import CredentialGateway.Text.Cut
import CredentialGateway.Text.Hex

namespace CredentialGateway.Url.Ipv6

/-- The number that one to four hexadecimal digits write. -/
def group? (ds : List Char) : Option Nat :=
  if ds.isEmpty || 4 < ds.length then none
  else ds.foldl (fun sofar c =>
    match sofar, Hex.value? c with
    | some n, some d => some (n * 16 + d)
    | _, _ => none) (some 0)

/-- An octet in decimal, without leading zeros. -/
def octet? (ds : List Char) : Option Nat :=
  if ds.isEmpty || 3 < ds.length || (1 < ds.length && ds.head? = some '0') then none
  else if ds.all fun c => c.isDigit then
    let n := ds.foldl (fun n c => n * 10 + (c.toNat - 48)) 0
    if n ≤ 255 then some n else none
  else none

/-- The two numbers of an embedded IPv4 address. -/
def embedded? (text : List Char) : Option (List Nat) :=
  match (Text.pieces '.' text).mapM octet? with
  | some [a, b, c, d] => some [a * 256 + b, c * 256 + d]
  | _ => none

/-- The numbers between colons; the last place may hold an IPv4 address. -/
def groups? (v4 : Bool) : List (List Char) → Option (List Nat)
  | [] => some []
  | [last] =>
    if v4 && last.contains '.' then embedded? last else (group? last).map fun n => [n]
  | g :: rest =>
    match group? g, groups? v4 rest with
    | some n, some ns => some (n :: ns)
    | _, _ => none

/-- The numbers of a text between colons; the empty text has none. -/
def numbers? (v4 : Bool) (text : List Char) : Option (List Nat) :=
  if text.isEmpty then some [] else groups? v4 (Text.pieces ':' text)

/-- The text before the first two colons and the text behind them. -/
def splitDouble? : List Char → Option (List Char × List Char)
  | ':' :: ':' :: rest => some ([], rest)
  | c :: rest => (splitDouble? rest).map fun (left, right) => (c :: left, right)
  | [] => none

/-- The eight numbers of an address. -/
def parse? (text : List Char) : Option (List Nat) :=
  match splitDouble? text with
  | none => (numbers? true text).filter fun ns => ns.length = 8
  | some (left, right) =>
    match numbers? false left, numbers? true right with
    | some l, some r =>
      if l.length + r.length ≤ 7 then
        some (l ++ List.replicate (8 - l.length - r.length) 0 ++ r)
      else none
    | _, _ => none

/-- How many zeros stand at the start. -/
def zerosAt (ns : List Nat) : Nat :=
  (ns.takeWhile fun n => n == 0).length

/-- The place and length of the first of the longest runs of zeros, from `place` on. -/
def longestZeros (place : Nat) : List Nat → Nat × Nat
  | [] => (place, 0)
  | n :: rest =>
    let here := zerosAt (n :: rest)
    let later := longestZeros (place + 1) rest
    if later.2 ≤ here then (place, here) else later

/-- Numbers between colons. -/
def renderGroups : List Nat → List Char
  | [] => []
  | [n] => Hex.digits n
  | n :: m :: rest => Hex.digits n ++ ':' :: renderGroups (m :: rest)

/-- The written form of an address. -/
def render (ns : List Nat) : List Char :=
  let (place, count) := longestZeros 0 ns
  if count < 2 then renderGroups ns
  else renderGroups (ns.take place) ++ [':', ':'] ++ renderGroups (ns.drop (place + count))

end CredentialGateway.Url.Ipv6
