/-
The header of a token: how it is signed and with which key.

Of the other standard fields only the kind of their values is checked; any field
beyond the standard ones must be a string.
-/
import CredentialGateway.Digest.Hmac
import CredentialGateway.Json.Printer
import CredentialGateway.Json.Record

namespace CredentialGateway.Token

/-- The algorithms that sign with a shared secret. -/
inductive MacAlgorithm where
  /-- HMAC with SHA-256. -/
  | hs256
  /-- HMAC with SHA-384. -/
  | hs384
  /-- HMAC with SHA-512. -/
  | hs512
deriving DecidableEq

/-- The code of a message under a key, by algorithm. -/
abbrev Mac := MacAlgorithm → (key message : List UInt8) → List UInt8

/-- The codes that the algorithms stand for. -/
def hmac : Mac
  | .hs256 => Hmac.mac Sha2.sha256
  | .hs384 => Hmac.mac Sha2.sha384
  | .hs512 => Hmac.mac Sha2.sha512

/-- The algorithms that a header may name. -/
inductive Algorithm where
  /-- A code under a shared secret. -/
  | mac (a : MacAlgorithm)
  /-- A signature with a key pair, by its name. -/
  | keyPair (name : String)
deriving DecidableEq

namespace Algorithm

/-- The name of an algorithm. -/
def name : Algorithm → String
  | mac .hs256 => "HS256"
  | mac .hs384 => "HS384"
  | mac .hs512 => "HS512"
  | keyPair name => name

/-- All the algorithms. -/
def all : List Algorithm :=
  [mac .hs256, mac .hs384, mac .hs512, keyPair "ES256", keyPair "ES384", keyPair "RS256",
    keyPair "RS384", keyPair "RS512", keyPair "PS256", keyPair "PS384", keyPair "PS512",
    keyPair "EdDSA"]

/-- The algorithm with a name. -/
def ofName? (name : String) : Option Algorithm :=
  all.find? fun a => a.name = name

end Algorithm

/-- A header, as far as it counts. -/
structure Header where
  /-- How the token is signed. -/
  algorithm : Algorithm
  /-- The name of the key, if the header gives one. -/
  keyId : Option String
deriving DecidableEq

namespace Header

open Json

/-- The header of this gateway's tokens, as a JSON object. -/
def toJson (a : MacAlgorithm) (keyId : String) : Json :=
  .object [("typ", .string "JWT"), ("alg", .string (Algorithm.mac a).name),
    ("kid", .string keyId)]

/-- An algorithm: its name, or an object that gives the name the value null. -/
def algorithm? : Written → Option Algorithm
  | .string ps => (pieceString? ps).bind Algorithm.ofName?
  | .object [(ps, .null)] => (pieceString? ps).bind Algorithm.ofName?
  | _ => none

/-- A list of strings. -/
def strings? : Written → Option (List String)
  | .array items => items.mapM Written.string?
  | _ => none

/-- A member that is missing, null or of a kind. -/
def checked {α : Type} (ms : List (String × Written)) (read : Written → Option α)
    (name : String) : Bool :=
  ((member? ms name).bind (Given.defaulted read)).isSome

/-- The text of a member that must be there. -/
def textOf? (ms : List (String × Written)) (name : String) : Option String :=
  (member? ms name).bind (Given.required Written.string?)

/-- The curves of keys. -/
def curves : List String := ["P-256", "P-384", "P-521", "Ed25519"]

/-- Whether a key names a known curve. -/
def hasCurve (ms : List (String × Written)) : Bool :=
  ((textOf? ms "crv").map curves.contains).getD false

/-- Whether the members of a key fit its kind. -/
def keyFits (ms : List (String × Written)) (kind : String) : Bool :=
  let given := fun name => (textOf? ms name).isSome
  match kind with
  | "EC" => hasCurve ms && given "x" && given "y"
  | "RSA" => given "n" && given "e"
  | "oct" => given "k"
  | "OKP" => hasCurve ms && given "x"
  | _ => false

/-- Whether a value is a key. -/
def key? : Written → Option Unit
  | .object members => do
    let ms ← named? members
    let kind ← textOf? ms "kty"
    let texts := ["use", "alg", "kid", "x5u", "x5t", "x5t#S256"].all (checked ms Written.string?)
    let lists := ["key_ops", "x5c"].all (checked ms strings?)
    if keyFits ms kind && texts && lists then some () else none
  | _ => none

/-- The standard fields that are strings. -/
def textNames : List String :=
  ["typ", "cty", "jku", "kid", "x5u", "x5t", "x5t#S256", "url", "nonce", "enc", "zip"]

/-- The standard fields that are lists of strings. -/
def listNames : List String := ["x5c", "crit"]

/-- Whether a field is a standard one. -/
def isStandard (name : String) : Bool :=
  name = "alg" || name = "jwk" || textNames.contains name || listNames.contains name

/-- The header that a text writes. -/
def ofWritten? : Written → Option Header
  | .object members => do
    let ms ← named? members
    let algorithm ← (member? ms "alg").bind (Given.required algorithm?)
    let keyId ← (member? ms "kid").bind (Given.defaulted Written.string?)
    let others := ms.filter fun m => !isStandard m.1
    if textNames.all (checked ms Written.string?) && listNames.all (checked ms strings?) &&
        checked ms key? "jwk" && others.all fun m => m.2.string?.isSome then
      some ⟨algorithm, keyId⟩
    else none
  | _ => none

end Header

end CredentialGateway.Token
