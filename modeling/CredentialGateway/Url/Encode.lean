/-
Which characters each part of a URL escapes.

An octet outside printable ASCII is always escaped; beyond that every part has its
own list.
-/
import CredentialGateway.Text.Percent
import CredentialGateway.Text.Utf8

namespace CredentialGateway.Url

/-- Whether an octet lies outside printable ASCII. -/
def isControl (b : UInt8) : Bool :=
  b.toNat < 0x20 || 0x7E < b.toNat

/-- Whether an octet writes one of the given characters. -/
def isOneOf (chars : List Char) (b : UInt8) : Bool :=
  chars.any fun c => c.toNat == b.toNat

/-- What a fragment escapes. -/
def escapedInFragment (b : UInt8) : Bool :=
  isControl b || isOneOf [' ', '"', '<', '>', '\x60'] b

/-- What a query escapes; under a special scheme the single quote too. -/
def escapedInQuery (special : Bool) (b : UInt8) : Bool :=
  isControl b || isOneOf [' ', '"', '#', '<', '>'] b || (special && isOneOf ['\x27'] b)

/-- What a path escapes. -/
def escapedInPath (b : UInt8) : Bool :=
  escapedInFragment b || isOneOf ['#', '?', '\x7b', '\x7d'] b

/-- What a user name or password escapes. -/
def escapedInUser (b : UInt8) : Bool :=
  escapedInPath b || isOneOf ['/', ':', ';', '=', '@', '[', '\\', ']', '^', '|'] b

/-- A text with the octets of a kind escaped. -/
def escape (escaped : UInt8 → Bool) (text : List Char) : List Char :=
  (Utf8.encode text).flatMap fun b =>
    if escaped b then Percent.escapeOctet b else [Char.ofNat b.toNat]

end CredentialGateway.Url
