/-
Query strings as lists of names and values.

Reading: pairs stand between `&`, empty ones are passed over, the first `=` of a pair
divides it, `+` is a space and `%XX` an octet; what is no proper escape stays as it
is, and octets that are not UTF-8 become replacement characters.  Writing keeps ASCII
letters, digits and `*-._`, and escapes every other octet but the space.
-/
import CredentialGateway.Text.Cut
import CredentialGateway.Text.Percent
import CredentialGateway.Text.Utf8

namespace CredentialGateway.Form

/-- The text of a name or value. -/
def component (bs : List UInt8) : String :=
  let spaced := bs.map fun b => if b = 0x2B then 0x20 else b
  String.ofList (Utf8.decodeLenient (Percent.unescape spaced))

/-- The name and value of a piece. -/
def pair (piece : List UInt8) : String × String :=
  let name := piece.takeWhile fun b => b != 0x3D
  (component name, component (piece.drop (name.length + 1)))

/-- The names and values of a query string, in their order. -/
def parse (query : String) : List (String × String) :=
  ((Text.pieces 0x26 (Utf8.encodeString query)).filter fun p => !p.isEmpty).map pair

/-- Whether an octet is written as it is. -/
def isPlain (b : UInt8) : Bool :=
  let n := b.toNat
  (48 ≤ n && n ≤ 57) || (65 ≤ n && n ≤ 90) || (97 ≤ n && n ≤ 122) ||
    n == 0x2A || n == 0x2D || n == 0x2E || n == 0x5F

/-- One octet in its written form. -/
def escapeOctet (b : UInt8) : List Char :=
  if isPlain b then [Char.ofNat b.toNat]
  else if b = 0x20 then ['+']
  else Percent.escapeOctet b

/-- A name or value in its written form. -/
def escape (s : String) : List Char :=
  (Utf8.encodeString s).flatMap escapeOctet

/-- A name and its value in their written form. -/
def renderPair (p : String × String) : List Char :=
  escape p.1 ++ '=' :: escape p.2

/-- The query string of names and values. -/
def render : List (String × String) → List Char
  | [] => []
  | [p] => renderPair p
  | p :: q :: rest => renderPair p ++ '&' :: render (q :: rest)

/-- The first value given under a name, unless it is empty. -/
def param (pairs : List (String × String)) (name : String) : Option String :=
  ((pairs.find? fun p => p.1 = name).map Prod.snd).filter fun v => !v.isEmpty

end CredentialGateway.Form
