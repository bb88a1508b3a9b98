/-
The bearer scheme in front of a credential.
-/
import CredentialGateway.Text.Blank

namespace CredentialGateway.Bearer

/-- The scheme and the space behind it, in lower case. -/
def scheme : List Char := ['b', 'e', 'a', 'r', 'e', 'r', ' ']

/-- Whether a value starts with the scheme, in any case. -/
def isScheme (value : List Char) : Bool :=
  (value.take scheme.length).map Text.lowerAscii = scheme

/-- Whether a value starts with the scheme, in any case. -/
def has (value : String) : Bool :=
  isScheme value.toList

/-- What stands behind the scheme, without white space in front; other values as they are. -/
def strip (value : List Char) : List Char :=
  if isScheme value then Text.trimStart Text.isBlank (value.drop scheme.length) else value

end CredentialGateway.Bearer
