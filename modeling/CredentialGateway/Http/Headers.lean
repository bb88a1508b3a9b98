/-
Header fields: lists of names in lower case and values of octets.

A name may have several values; their order counts.  A value is text if it consists
of visible ASCII, spaces and tabs; any value without control characters is legal.
-/
import CredentialGateway.Text.Utf8

namespace CredentialGateway.Http

/-- Header fields in their order. -/
abbrev Headers := List (String × List UInt8)

/-- Whether an octet may stand in a header value. -/
def isValueOctet (b : UInt8) : Bool :=
  b == 0x09 || (0x20 ≤ b.toNat && b != 0x7F)

/-- Whether an octet of a header value is readable text. -/
def isTextOctet (b : UInt8) : Bool :=
  b == 0x09 || (0x20 ≤ b.toNat && b.toNat < 0x7F)

/-- Whether octets are a legal header value. -/
def isValue (bs : List UInt8) : Bool :=
  bs.all isValueOctet

/-- The text of a header value. -/
def valueText? (bs : List UInt8) : Option String :=
  if bs.all isTextOctet then some (String.ofList (bs.map fun b => Char.ofNat b.toNat)) else none

/-- The legal header value that a text makes. -/
def value? (s : String) : Option (List UInt8) :=
  let bs := Utf8.encodeString s
  if isValue bs then some bs else none

/-- Whether a character may stand in a method or a header name. -/
def isTokenChar (c : Char) : Bool :=
  c.isAlphanum ||
    ['!', '#', '$', '%', '&', '\x27', '*', '+', '-', '.', '^', '_', '\x60', '|', '~'].contains c

namespace Headers

/-- The values of a name, in their order. -/
def values (h : Headers) (name : String) : List (List UInt8) :=
  (h.filter fun f => f.1 = name).map Prod.snd

/-- The first value of a name. -/
def first? (h : Headers) (name : String) : Option (List UInt8) :=
  (h.find? fun f => f.1 = name).map Prod.snd

/-- The text of the first value of a name; nothing if that value is not text. -/
def text? (h : Headers) (name : String) : Option String :=
  (h.first? name).bind valueText?

/-- Whether a name has a value. -/
def has (h : Headers) (name : String) : Bool :=
  h.any fun f => f.1 = name

/-- Give a name one value in place of all it had. -/
def put (h : Headers) (name : String) (value : List UInt8) : Headers :=
  (h.filter fun f => f.1 ≠ name) ++ [(name, value)]

end Headers

end CredentialGateway.Http
