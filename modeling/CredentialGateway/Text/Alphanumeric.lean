/-
Letters and digits of all scripts.
-/
import CredentialGateway.Text.Alphanumeric.Table

namespace CredentialGateway.Text

/-- Whether a character is a letter or a digit of any script. -/
def isAlphanumeric (c : Char) : Bool :=
  if c.toNat < 128 then c.isAlphanum else Runs.contains Alphanumeric.members c

end CredentialGateway.Text
