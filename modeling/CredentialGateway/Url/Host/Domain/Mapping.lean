/-
How domain names write their characters.

Letters are put in lower case, variants of a character are replaced by it, some
characters are ignored and some are refused (UTS #46).
-/
import CredentialGateway.Text.Case
import CredentialGateway.Text.Normal
import CredentialGateway.Url.Host.Domain.Mapping.Table

namespace CredentialGateway.Url.Domain

namespace Mapping

/-- What a name writes for a character; some characters are refused. -/
def image? (c : Char) : Option (List Char) :=
  if c.toNat < 128 then some [Text.lowerAscii c]
  else if Text.Runs.contains disallowed c then none
  else some ((Text.Span.find? images c).getD (Text.lowerChar c))

end Mapping

/-- What a name writes for a text, in normal form. -/
def mapped? (text : List Char) : Option (List Char) :=
  (text.mapM Mapping.image?).map fun images => Text.normal images.flatten

end CredentialGateway.Url.Domain
