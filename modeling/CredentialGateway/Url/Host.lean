/-
Hosts of URLs.

Under the schemes of the web a host is a domain name or an address; under other
schemes all but an address in brackets is left as it is written.
-/
import CredentialGateway.Url.Encode
import CredentialGateway.Url.Host.Domain
import CredentialGateway.Url.Host.Ipv4
import CredentialGateway.Url.Host.Ipv6

namespace CredentialGateway.Url

/-- A host. -/
inductive Host where
  /-- A domain name in ASCII. -/
  | domain (name : List Char)
  /-- An IPv4 address. -/
  | ipv4 (address : Nat)
  /-- An IPv6 address. -/
  | ipv6 (numbers : List Nat)
  /-- A host of another scheme. -/
  | verbatim (text : List Char)
deriving DecidableEq

namespace Host

/-- An address in brackets. -/
def bracketed? (text : List Char) : Option Host :=
  if text.getLast? = some ']' then (Ipv6.parse? (text.drop 1).dropLast).map .ipv6 else none

/-- The host under a scheme of the web. -/
def special? (text : List Char) : Option Host :=
  if text.head? = some '[' then bracketed? text
  else do
    let name ← Domain.parse? text
    if Ipv4.endsInNumber name then (Ipv4.parse? name).map .ipv4 else some (.domain name)

/-- The characters that no host of another scheme holds. -/
def isForbidden (c : Char) : Bool :=
  ['\x00', '\t', '\n', '\r', ' ', '#', '/', ':', '<', '>', '?', '@', '[', '\\', ']', '^',
    '|'].contains c

/-- The host under another scheme. -/
def other? (text : List Char) : Option Host :=
  if text.head? = some '[' then bracketed? text
  else if text.any isForbidden then none
  else some (.verbatim (escape isControl text))

/-- The written form of a host. -/
def render : Host → List Char
  | .domain name => name
  | .ipv4 address => Ipv4.render address
  | .ipv6 numbers => '[' :: Ipv6.render numbers ++ [']']
  | .verbatim text => text

end Host

end CredentialGateway.Url
