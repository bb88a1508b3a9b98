/-
The bodies that the gateway's own endpoints read and write.
-/
import CredentialGateway.Json.Printer
import CredentialGateway.Json.Record

namespace CredentialGateway.Server

open Json

/-- The answer to a token exchange. -/
structure TokenGrant where
  /-- The token. -/
  token : String
  /-- The header field to send it in. -/
  header : String
  /-- A header line that is ready for use. -/
  sample : String
  /-- How to send the token. -/
  note : String
  /-- What protects the token. -/
  security : String
deriving DecidableEq

namespace TokenGrant

/-- The answer that hands out a token. -/
def ofToken (token : String) : TokenGrant where
  token := token
  header := "Magic-Authorization"
  sample := "Magic-Authorization: Bearer " ++ token
  note := "Send the token with a Bearer prefix; the gateway adds it when missing"
  security := "Token carries an anti-replay nonce and the signing key version"

/-- The answer as a JSON object. -/
def toJson (g : TokenGrant) : Json :=
  .object [("token", .string g.token), ("header", .string g.header),
    ("example", .string g.sample), ("note", .string g.note), ("security", .string g.security)]

/-- The answer that a text writes. -/
def ofWritten? (w : Written) : Option TokenGrant := do
  let [token, header, sample, note, security] ←
    fields? ["token", "header", "example", "note", "security"] w | none
  return ⟨← token.required Written.string?, ← header.required Written.string?,
    ← sample.required Written.string?, ← note.required Written.string?,
    ← security.required Written.string?⟩

end TokenGrant

/-- A record with one field that is a string. -/
def singleString? (name : String) (w : Written) : Option String := do
  let [value] ← fields? [name] w | none
  value.required Written.string?

/-- The id of the token that a caller wants revoked. -/
def revocation? : Written → Option String :=
  singleString? "token_id"

/-- The text that a caller wants signed. -/
def payload? : Written → Option String :=
  singleString? "payload"

/-- A JSON object, inside a record. -/
def object? (w : Written) : Option Json :=
  match Json.ofWritten? (maxDepth - 1) w with
  | some (.object members) => some (.object members)
  | _ => none

/-- The object that a caller wants signed. -/
def metadata? (w : Written) : Option Json := do
  let [value] ← fields? ["metadata"] w | none
  value.required object?

/-- Read a body with one of the readers. -/
def readBody? {α : Type} (read : Written → Option α) (body : List UInt8) : Option α :=
  (Written.parse? body).bind read

end CredentialGateway.Server
