/-
Message authentication codes from a hash function.

The key is brought to the length of a block, hashed first if it is longer, and goes
into two nested digests under two different masks.
-/
import CredentialGateway.Digest.Sha2

namespace CredentialGateway.Hmac

/-- The key, brought to the length of a block. -/
def blockKey (v : Sha2.Variant) (key : List UInt8) : List UInt8 :=
  let key := if v.blockOctets < key.length then v.digest key else key
  key ++ List.replicate (v.blockOctets - key.length) 0

/-- The code of a message under a key. -/
def mac (v : Sha2.Variant) (key message : List UInt8) : List UInt8 :=
  let key := blockKey v key
  let inner := v.digest (key.map (· ^^^ 0x36) ++ message)
  v.digest (key.map (· ^^^ 0x5C) ++ inner)

end CredentialGateway.Hmac
