/-
Issuing and verifying tokens.

Tokens are kept nowhere.  A token is three parts of URL-safe Base64 with dots between
them: header, claims, and the code of all before the last dot under the signing
secret.  All that the authority remembers is how many tokens it issued and the
greatest time up to which it revoked them, and neither ever goes back.

The code is a parameter: nothing here depends on which function it is.
-/
import CredentialGateway.Bearer
import CredentialGateway.Caller
import CredentialGateway.Store
import CredentialGateway.Text.Base64
import CredentialGateway.Text.Utf8
import CredentialGateway.Token.Claims
import CredentialGateway.Token.Header
import CredentialGateway.Token.Rejection

namespace CredentialGateway.Token

/-- The issuer of tokens and the judge of them. -/
structure Authority where
  /-- The octets of the signing secret. -/
  secret : List UInt8
  /-- The name of the signing secret. -/
  keyId : String
  /-- How many tokens have been issued. -/
  version : UInt64
  /-- Tokens created before this time are revoked. -/
  cutoff : UInt64
deriving DecidableEq

/-- What is new in each token: when it is issued, a finer time stamp and a random text. -/
structure Occasion where
  /-- The time in seconds. -/
  now : UInt64
  /-- The time in nanoseconds. -/
  stamp : Nat
  /-- The random text. -/
  nonce : String

/-- A token with the claims it carries. -/
structure Issued where
  /-- The token. -/
  token : String
  /-- Its claims. -/
  claims : Claims

/-- What this gateway's tokens are good for. -/
def scope : String := "api_gateway"

/-- How long a token is valid, in seconds: thirty days. -/
def validity : UInt64 := 30 * 24 * 60 * 60

/-- The dot between the parts of a token. -/
def dot : UInt8 := 0x2E

/-- The first two parts of a token. -/
def signedText (header claims : Json) : List UInt8 :=
  Base64.urlSafe.encode header.octets ++ dot :: Base64.urlSafe.encode claims.octets

/-- The token with given header and claims under a secret. -/
def compact (mac : Mac) (secret : List UInt8) (a : MacAlgorithm) (keyId : String)
    (claims : Claims) : List UInt8 :=
  let text := signedText (Header.toJson a keyId) claims.toJson
  text ++ dot :: Base64.urlSafe.encode (mac a secret text)

namespace Authority

/-- The authority at the start. -/
def ofStore (s : Store) : Authority :=
  ⟨Utf8.encodeString s.secret, s.keyId, 0, 0⟩

/-- The claims of the next token. -/
def claimsFor (a : Authority) (caller : Caller) (o : Occasion) : Claims where
  id := toString o.stamp ++ "-" ++ caller.subject
  issuedAt := o.now
  notBefore := o.now
  expires := o.now + validity
  subject := caller.subject
  assertedId := nonEmpty caller.assertedId
  organization := nonEmpty caller.organization
  version := a.version + 1
  createdAt := o.now
  keyId := a.keyId
  nonce := o.nonce
  scope := scope

/-- Issue a token to a caller. -/
def issue (mac : Mac) (a : Authority) (caller : Caller) (o : Occasion) : Issued × Authority :=
  let claims := a.claimsFor caller o
  let token := compact mac a.secret .hs256 a.keyId claims
  (⟨String.ofList (token.map fun b => Char.ofNat b.toNat), claims⟩,
    { a with version := a.version + 1 })

/-- Move the cutoff to a time, unless it is later already. -/
def revoke (a : Authority) (time : UInt64) : Authority :=
  { a with cutoff := max a.cutoff time }

/-- The parts of a token: header, claims and signature, and the text that is signed. -/
structure Parts where
  /-- The header part. -/
  header : List UInt8
  /-- The claims part. -/
  claims : List UInt8
  /-- The signature part. -/
  signature : List UInt8
  /-- All before the last dot. -/
  signed : List UInt8

/-- Cut a token at its last two dots. -/
def parts? (token : List UInt8) : Option Parts := do
  let (signed, signature) ← Text.splitLast? dot token
  let (header, claims) ← Text.splitLast? dot signed
  return ⟨header, claims, signature, signed⟩

/-- The octets of a part. -/
def decodePart (part : List UInt8) : Except Rejection (List UInt8) :=
  (Base64.urlSafe.decode part).mapError fun f => .malformed (.base64 f)

/-- A value that a part must have as JSON. -/
def readPart {α : Type} (read : Json.Written → Option α) (part : List UInt8) :
    Except Rejection α := do
  match (Json.Written.parse? (← decodePart part)).bind read with
  | some v => return v
  | none => throw (.malformed .json)

/-- The claims of a part, and whether they name an audience. -/
def claimsAndAudience? (w : Json.Written) : Option (Claims × Bool) := do
  return (← Claims.ofWritten? w, ← Claims.namesAudience? w)

/-- Check the header: it must name a code under a shared secret and the live key. -/
def checkHeader (a : Authority) (h : Header) : Except Rejection MacAlgorithm :=
  match h.algorithm with
  | .keyPair name => .error (.algorithm name)
  | .mac algorithm =>
    if h.keyId = some a.keyId then .ok algorithm else .error (.headerKey h.keyId)

/-- Check the signature. -/
def checkSignature (mac : Mac) (a : Authority) (algorithm : MacAlgorithm) (p : Parts) :
    Except Rejection Unit := do
  let signature ← decodePart p.signature
  if signature = mac algorithm a.secret p.signed then return else throw .badSignature

/-- Check what the claims say against the clock and the state of the authority. -/
def checkClaims (a : Authority) (now : UInt64) (c : Claims) (audience : Bool) :
    Except Rejection Claims :=
  if c.expires < now then .error .expired
  else if now < c.notBefore then .error .notYetValid
  else if audience then .error (.malformed .audience)
  else if c.scope ≠ Token.scope then .error (.scope c.scope)
  else if c.createdAt < a.cutoff then .error (.revoked c.createdAt a.cutoff)
  else if c.keyId ≠ a.keyId then .error (.claimsKey c.keyId)
  else .ok c

/-- Verify a token without a scheme in front of it. -/
def verifyToken (mac : Mac) (a : Authority) (now : UInt64) (token : List UInt8) :
    Except Rejection Claims := do
  let some p := parts? token | throw (.malformed .parts)
  let algorithm ← a.checkHeader (← readPart Header.ofWritten? p.header)
  a.checkSignature mac algorithm p
  let (claims, audience) ← readPart claimsAndAudience? p.claims
  a.checkClaims now claims audience

/-- The token in a presented text: without white space around it and the scheme in front. -/
def presentedToken (presented : String) : List UInt8 :=
  Utf8.encode (Bearer.strip (Text.trimBlank presented.toList))

/-- Verify a presented text, with or without the bearer scheme. -/
def verify (mac : Mac) (a : Authority) (now : UInt64) (presented : String) :
    Except Rejection Claims :=
  a.verifyToken mac now (presentedToken presented)

/-- The authority described without its secret. -/
def describe (a : Authority) : String :=
  "TokenAuthority \x7b key_id: " ++ Text.quoteString a.keyId ++ ", token_version: " ++
    toString a.version ++ ", revoke_before: " ++ toString a.cutoff ++ ", .. \x7d"

end Authority

end CredentialGateway.Token
