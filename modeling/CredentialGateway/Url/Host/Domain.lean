/-
Domain names.

A name is decoded from its escapes and put into the form that names have in ASCII (UTS
#46): its characters are mapped, and a label that still holds others than ASCII is
written in Punycode behind a mark.  A name that holds a character with a meaning in a
URL is refused, and so is a label that does not keep the rules for labels.
-/
import CredentialGateway.Text.Percent
import CredentialGateway.Text.Cut
import CredentialGateway.Text.Utf8
import CredentialGateway.Text.Mark
import CredentialGateway.Url.Host.Domain.Bidi
import CredentialGateway.Url.Host.Domain.Joiner
import CredentialGateway.Url.Host.Domain.Mapping
import CredentialGateway.Url.Host.Domain.Punycode

namespace CredentialGateway.Url.Domain

/-- The ASCII characters that no domain name holds. -/
def isForbidden (c : Char) : Bool :=
  c.toNat ≤ 0x20 || c.toNat == 0x7F ||
    ['%', '#', '/', ':', '<', '>', '?', '@', '[', '\\', ']', '^', '|'].contains c

/-! ### Labels -/

/-- What a label in Punycode begins with. -/
def mark : List Char := "xn--".toList

/-- Whether a text is in ASCII. -/
def isAscii (text : List Char) : Bool :=
  text.all fun c => c.toNat < 128

/-- The longest label that is written in Punycode. -/
def longest : Nat := 1000

/-- The text of a label; only what is not in ASCII is written in Punycode, and only in the
form that the mapping leaves as it is. -/
def text? (label : List Char) : Option (List Char) :=
  match Text.after? mark label with
  | none => some label
  | some code =>
    if 2 * longest < code.length then none
    else (Punycode.decode? code).filter fun text =>
      !isAscii text && mapped? text == some text && (Text.after? mark text).isNone

/-- Whether the text of a label keeps the rules for its characters. -/
def isLabel (text : List Char) : Bool :=
  isAscii text ||
    text.length ≤ longest && !text.head?.any Text.isMark && Joiner.allows [] text

/-- A label in ASCII. -/
def ofText (text : List Char) : List Char :=
  if isAscii text then text else mark ++ Punycode.encode text

/-! ### Names -/

/-- The name in ASCII of labels. -/
def ofLabels? (labels : List (List Char)) : Option (List Char) := do
  let texts ← labels.mapM text?
  if texts.all isLabel && Bidi.allows texts then
    some (['.'].intercalate (texts.map ofText))
  else none

/-- The ASCII form of a domain name; one in ASCII without Punycode is only put in lower
case. -/
def toAscii? (name : List Char) : Option (List Char) :=
  let lower := name.map Text.lowerAscii
  if isAscii lower && (Text.pieces '.' lower).all fun label =>
      (Text.after? mark label).isNone then some lower
  else do ofLabels? (Text.pieces '.' (← mapped? name))

/-- The domain name that a host writes; the empty one is refused. -/
def parse? (host : List Char) : Option (List Char) := do
  let text ← Utf8.decode? (Percent.unescape (Utf8.encode host))
  let name ← toAscii? text
  if name.isEmpty || name.any isForbidden then none else some name

end CredentialGateway.Url.Domain
