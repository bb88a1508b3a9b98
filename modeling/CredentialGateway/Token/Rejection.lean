/-
Why a token is refused.
-/
import CredentialGateway.Text.Base64

namespace CredentialGateway.Token

/-- Why a text is no token at all. -/
inductive Malformation where
  /-- It does not have three parts. -/
  | parts
  /-- A part is not Base64. -/
  | base64 (cause : Base64.Fault)
  /-- A part is not the JSON it should be. -/
  | json
  /-- It is meant for an audience, and this gateway is none. -/
  | audience
deriving DecidableEq

/-- The malformation in words. -/
def Malformation.message : Malformation → String
  | .parts => "InvalidToken"
  | .base64 cause => "Base64 error: " ++ cause.message
  | .json => "JSON error"
  | .audience => "InvalidAudience"

/-- Why a token is refused. -/
inductive Rejection where
  /-- It is no token. -/
  | malformed (cause : Malformation)
  /-- It is not signed with a shared secret. -/
  | algorithm (name : String)
  /-- Its header does not name the live key. -/
  | headerKey (keyId : Option String)
  /-- Its signature is wrong. -/
  | badSignature
  /-- Its time is over. -/
  | expired
  /-- Its time has not come. -/
  | notYetValid
  /-- It is good for something else. -/
  | scope (scope : String)
  /-- It was created before the cutoff. -/
  | revoked (createdAt cutoff : UInt64)
  /-- Its claims do not name the live key. -/
  | claimsKey (keyId : String)
deriving DecidableEq

namespace Rejection

/-- The name of the cause. -/
def kind : Rejection → String
  | malformed _ => "Malformed"
  | algorithm _ => "AlgorithmMismatch"
  | headerKey _ => "HeaderKeyMismatch"
  | badSignature => "BadSignature"
  | expired => "Expired"
  | notYetValid => "NotYetValid"
  | scope _ => "WrongScope"
  | revoked _ _ => "Revoked"
  | claimsKey _ => "ClaimsKeyMismatch"

/-- The message about a revoked token, with the two times as they are to be shown. -/
def revokedMessage (createdAt cutoff : String) : String :=
  "token created at " ++ createdAt ++ " precedes revocation cutoff " ++ cutoff

/-- The cause in words. -/
def message : Rejection → String
  | malformed cause => "malformed token: " ++ cause.message
  | algorithm name => "unexpected signing algorithm: " ++ name
  | headerKey keyId => "header key id mismatch: " ++ keyId.getD "<none>"
  | badSignature => "signature verification failed"
  | expired => "token expired"
  | notYetValid => "token not yet valid"
  | scope s => "invalid scope: " ++ s
  | revoked createdAt cutoff => revokedMessage (toString createdAt) (toString cutoff)
  | claimsKey keyId => "claims key id mismatch: " ++ keyId

end Rejection

end CredentialGateway.Token
