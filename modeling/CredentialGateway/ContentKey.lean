/-
The key that signs generated content.

It is given in padded Base64, as a seed of 32 octets or as a seed and its public key,
64 octets together.  The second form is only accepted if the two belong together, so
both forms of one seed give the same key.
-/
import CredentialGateway.Ed25519
import CredentialGateway.Json.Printer
import CredentialGateway.Text.Base64
import CredentialGateway.Text.Blank
import CredentialGateway.Text.Quoted

namespace CredentialGateway

/-- A key for signing content. -/
structure ContentKey where
  /-- The seed. -/
  seed : List UInt8
deriving DecidableEq

namespace ContentKey

/-- Why a text is no key. -/
inductive Fault where
  /-- It is not Base64. -/
  | encoding (cause : Base64.Fault)
  /-- The public key is not a point of the curve. -/
  | notAPoint
  /-- The public key belongs to another seed. -/
  | mismatch
  /-- It has the wrong number of octets. -/
  | length (octets : Nat)
deriving DecidableEq

/-- The fault in words. -/
def Fault.message : Fault → String
  | .encoding cause => "Failed to decode Ed25519 key: " ++ cause.message
  | .notAPoint => "Invalid Ed25519 keypair: signature error: Cannot decompress Edwards point"
  | .mismatch => "Invalid Ed25519 keypair: signature error: Mismatched Keypair detected"
  | .length octets =>
    "Invalid Ed25519 key length: expected 64 bytes, got " ++ toString octets

/-- The key that octets hold. -/
def ofOctets (bytes : List UInt8) : Except Fault ContentKey :=
  if bytes.length = 64 then
    let seed := bytes.take 32
    let given := bytes.drop 32
    if !Ed25519.isPoint given then .error .notAPoint
    else if Ed25519.publicKey seed = given then .ok ⟨seed⟩
    else .error .mismatch
  else if bytes.length = 32 then .ok ⟨bytes⟩
  else .error (.length bytes.length)

/-- The key that a text writes, with white space around it allowed. -/
def ofBase64 (text : String) : Except Fault ContentKey :=
  match Base64.standard.decode (Utf8.encode (Text.trimBlank text.toList)) with
  | .ok bytes => ofOctets bytes
  | .error cause => .error (.encoding cause)

/-- The public key in Base64. -/
def publicKey (k : ContentKey) : String :=
  Base64.encodeString Base64.standard (Ed25519.publicKey k.seed)

/-- The signature of octets, in Base64. -/
def sign (k : ContentKey) (message : List UInt8) : String :=
  Base64.encodeString Base64.standard (Ed25519.sign k.seed message)

/-- The key described without its seed. -/
def describe (k : ContentKey) : String :=
  "ContentSigner \x7b public_key: " ++ Text.quoteString k.publicKey ++ ", .. \x7d"

end ContentKey

namespace Json

mutual

/-- The form of a value in which the members of all objects are sorted by name. -/
def canonical : Json → Json
  | .array items => .array (canonicalItems items)
  | .object members => .object (sortMembers (canonicalMembers members))
  | other => other

/-- The canonical forms of an array's items. -/
def canonicalItems : List Json → List Json
  | [] => []
  | v :: vs => canonical v :: canonicalItems vs

/-- The canonical forms of an object's members, in their order. -/
def canonicalMembers : List (String × Json) → List (String × Json)
  | [] => []
  | (k, v) :: ms => (k, canonical v) :: canonicalMembers ms

end

/-- The octets that are signed for a value. -/
def signedOctets (v : Json) : List UInt8 :=
  v.canonical.octets

end Json

/-- The signature of a JSON value over its canonical compact text. -/
def ContentKey.signJson (k : ContentKey) (v : Json) : String :=
  k.sign v.signedOctets

end CredentialGateway
