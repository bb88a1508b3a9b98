/-
JSON values as compact texts.

No white space, members in their order, and the fewest escapes: the quote, the
backslash and the characters below U+0020.
-/
import CredentialGateway.Json.Value
import CredentialGateway.Number.Shortest

namespace CredentialGateway.Json

/-- One character inside a string. -/
def escapeChar (c : Char) : List Char :=
  if c = '"' then ['\\', '"']
  else if c = '\\' then ['\\', '\\']
  else if 0x20 ≤ c.toNat then [c]
  else if c.toNat = 0x08 then ['\\', 'b']
  else if c.toNat = 0x09 then ['\\', 't']
  else if c.toNat = 0x0A then ['\\', 'n']
  else if c.toNat = 0x0C then ['\\', 'f']
  else if c.toNat = 0x0D then ['\\', 'r']
  else ['\\', 'u', '0', '0', Hex.digit (c.toNat / 16), Hex.digit (c.toNat % 16)]

/-- A string between quotes. -/
def renderString (s : String) : List Char :=
  '"' :: s.toList.flatMap escapeChar ++ ['"']

/-- An integer. -/
def renderInteger : Int → List Char
  | .ofNat n => Nat.toDigits 10 n
  | .negSucc n => '-' :: Nat.toDigits 10 (n + 1)

/-- Digits before the point, `width` of them, filled up with zeros, then the others. -/
def positional (ds : List Char) (width : Nat) : List Char :=
  let fraction := ds.drop width
  ds.take width ++ List.replicate (width - ds.length) '0' ++ '.' ::
    (if fraction.isEmpty then ['0'] else fraction)

/-- Digits with the exponent of the first one: between -5 and 15 a point is put in its
place, and always something behind it; otherwise the exponent is written. -/
def renderDigits (ds : List Char) (exponent : Int) : List Char :=
  if 0 ≤ exponent ∧ exponent ≤ 15 then positional ds (exponent.toNat + 1)
  else if -5 ≤ exponent ∧ exponent < 0 then
    '0' :: '.' :: List.replicate ((-exponent).toNat - 1) '0' ++ ds
  else
    ds.take 1 ++ (if ds.length = 1 then [] else '.' :: ds.drop 1) ++
      ['e', if exponent < 0 then '-' else '+'] ++ Nat.toDigits 10 exponent.natAbs

/-- A double by the fewest digits that read back. -/
def renderDouble (x : Binary64) : List Char :=
  let text :=
    if x.magnitude.significand = 0 then ['0', '.', '0']
    else
      let short := x.magnitude.shortest
      let ds := Nat.toDigits 10 short.digits
      let kept := (ds.reverse.dropWhile fun c => c == '0').reverse
      renderDigits kept (short.exponent + (ds.length - 1 : Nat))
  if x.negative then '-' :: text else text

mutual

/-- The compact text of a value. -/
def render : Json → List Char
  | .null => ['n', 'u', 'l', 'l']
  | .bool true => ['t', 'r', 'u', 'e']
  | .bool false => ['f', 'a', 'l', 's', 'e']
  | .integer n => renderInteger n
  | .double x => renderDouble x
  | .string s => renderString s
  | .array [] => ['[', ']']
  | .array (v :: vs) => '[' :: render v ++ renderItems vs
  | .object [] => ['\x7b', '\x7d']
  | .object ((k, v) :: ms) => '\x7b' :: renderString k ++ ':' :: render v ++ renderMembers ms

/-- The further items of an array and its closing bracket. -/
def renderItems : List Json → List Char
  | [] => [']']
  | v :: vs => ',' :: render v ++ renderItems vs

/-- The further members of an object and its closing brace. -/
def renderMembers : List (String × Json) → List Char
  | [] => ['\x7d']
  | (k, v) :: ms => ',' :: renderString k ++ ':' :: render v ++ renderMembers ms

end

/-- The compact text of a value, as a string. -/
def text (v : Json) : String :=
  String.ofList v.render

/-- The octets of the compact text of a value. -/
def octets (v : Json) : List UInt8 :=
  Utf8.encode v.render

end CredentialGateway.Json
