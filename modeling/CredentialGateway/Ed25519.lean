/-
Ed25519 signatures, as functions of the seed.
-/
import CredentialGateway.Ed25519.Curve

namespace CredentialGateway.Ed25519

/-- The digest of a seed, from which all else follows. -/
def expanded (seed : List UInt8) : List UInt8 :=
  Sha2.sha512.digest seed

/-- The secret factor: the first half of the digest, with its three lowest bits and its
highest bit cleared and the bit below that set. -/
def factor (seed : List UInt8) : Nat :=
  natOf ((expanded seed).take 32) % Nat.pow 2 254 / 8 * 8 + Nat.pow 2 254

/-- The public key of a seed. -/
def publicKey (seed : List UInt8) : List UInt8 :=
  encodePoint (Point.times 256 (factor seed) .base)

/-- A digest as a factor. -/
def reduced (message : List UInt8) : Nat :=
  natOf (Sha2.sha512.digest message) % order

/-- The signature of a message under a seed. -/
def sign (seed message : List UInt8) : List UInt8 :=
  let r := reduced ((expanded seed).drop 32 ++ message)
  let front := encodePoint (Point.times 256 r .base)
  let k := reduced (front ++ publicKey seed ++ message)
  front ++ octetsOf 32 ((r + k * factor seed) % order)

end CredentialGateway.Ed25519
