/-
White space: the characters with the Unicode property `White_Space`, and
trimming by it.
-/
import CredentialGateway.Text.Cut

namespace CredentialGateway.Text

/-- The characters with the Unicode property `White_Space`. -/
def isBlank (c : Char) : Bool :=
  let v := c.toNat
  (9 ≤ v && v ≤ 13) || v == 0x20 || v == 0x85 || v == 0xA0 || v == 0x1680 ||
    (0x2000 ≤ v && v ≤ 0x200A) || v == 0x2028 || v == 0x2029 || v == 0x202F ||
    v == 0x205F || v == 0x3000

/-- A text without the white space around it. -/
def trimBlank (text : List Char) : List Char :=
  trim isBlank text

/-- The names of a comma-separated list, trimmed, the blank ones left out. -/
def nameList (text : String) : List String :=
  (((pieces ',' text.toList).map trimBlank).filter fun name => !name.isEmpty).map String.ofList

end CredentialGateway.Text
