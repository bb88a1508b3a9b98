/-
What a token says, and its JSON form.

The two optional claims are left out of the JSON form when they are not there.  A
reader accepts both that and a null.
-/
import CredentialGateway.Json.Printer
import CredentialGateway.Json.Record

namespace CredentialGateway.Token

/-- The claims of a token; times are seconds since 1970. -/
structure Claims where
  /-- The id of the token. -/
  id : String
  /-- When the token was issued. -/
  issuedAt : UInt64
  /-- The first second at which the token is valid. -/
  notBefore : UInt64
  /-- The last second at which the token is valid. -/
  expires : UInt64
  /-- The caller. -/
  subject : String
  /-- The id that a service in front of the gateway asserted. -/
  assertedId : Option String
  /-- The code of the caller's organization. -/
  organization : Option String
  /-- How many tokens had been issued with this one. -/
  version : UInt64
  /-- The time that is compared with the revocation cutoff. -/
  createdAt : UInt64
  /-- The name of the secret that signed the token. -/
  keyId : String
  /-- A random text that makes the token unique. -/
  nonce : String
  /-- What the token is good for. -/
  scope : String
deriving DecidableEq

namespace Claims

/-- The names of the claims, in their order. -/
def names : List String :=
  ["jti", "iat", "nbf", "exp", "container_id", "magic_user_id", "magic_organization_code",
    "token_version", "created_at", "kid", "nonce", "scope"]

/-- A member that is left out when it has no value. -/
def member? (name : String) (value : Option String) : List (String × Json) :=
  (value.map fun v => (name, Json.string v)).toList

/-- A word as a JSON integer. -/
def word (n : UInt64) : Json :=
  .integer n.toNat

/-- The claims as a JSON object. -/
def toJson (c : Claims) : Json :=
  .object <|
    [("jti", .string c.id), ("iat", word c.issuedAt), ("nbf", word c.notBefore),
      ("exp", word c.expires), ("container_id", .string c.subject)] ++
    member? "magic_user_id" c.assertedId ++
    member? "magic_organization_code" c.organization ++
    [("token_version", word c.version), ("created_at", word c.createdAt),
      ("kid", .string c.keyId), ("nonce", .string c.nonce), ("scope", .string c.scope)]

open Json in
/-- The claims that a text writes. -/
def ofWritten? (w : Written) : Option Claims := do
  let [id, issuedAt, notBefore, expires, subject, assertedId, organization, version, createdAt,
    keyId, nonce, scope] ← fields? names w | none
  return {
    id := ← id.required Written.string?
    issuedAt := ← issuedAt.required Written.word?
    notBefore := ← notBefore.required Written.word?
    expires := ← expires.required Written.word?
    subject := ← subject.required Written.string?
    assertedId := ← assertedId.defaulted Written.string?
    organization := ← organization.defaulted Written.string?
    version := ← version.required Written.word?
    createdAt := ← createdAt.required Written.word?
    keyId := ← keyId.required Written.string?
    nonce := ← nonce.required Written.string?
    scope := ← scope.required Written.string? }

/-! ### Claims that this gateway does not use -/

/-- Whether a value names an audience: a string or a list of strings. -/
def isAudience : Json → Bool
  | .string _ => true
  | .array items => items.all fun v => match v with
    | .string _ => true
    | _ => false
  | _ => false

/-- A value that may be of any kind, if it can be read at all. -/
def anyValue? : Json.Written → Option Json
  | .number _ => some .null
  | w => Json.ofWritten? (Json.maxDepth - 1) w

/-- A value that may be of any kind but an array or an object. -/
def anyScalar? : Json.Written → Option Json
  | .array _ => none
  | .object _ => none
  | w => anyValue? w

/-- Whether a text names an audience.  The claims `sub`, `iss` and `aud` are looked at only so
far: none may be given twice, each must be readable, and `sub` must be a single value. -/
def namesAudience? : Json.Written → Option Bool
  | .object members => do
    let ms ← Json.named? members
    let sub ← Json.member? ms "sub"
    let iss ← Json.member? ms "iss"
    let aud ← Json.member? ms "aud"
    if let .value w := sub then let _ ← anyScalar? w
    if let .value w := iss then let _ ← anyValue? w
    match aud with
    | .value w => (anyValue? w).map isAudience
    | _ => some false
  | _ => none

end Claims

end CredentialGateway.Token
