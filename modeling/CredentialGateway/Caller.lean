/-
Who asks for a token.
-/

namespace CredentialGateway

/-- The identity that a caller presents; every part of it may be missing. -/
structure Caller where
  /-- The caller's own id. -/
  userId : Option String
  /-- The id that a service in front of the gateway asserts. -/
  assertedId : Option String
  /-- The code of the caller's organization. -/
  organization : Option String
deriving DecidableEq

/-- A text that is there and not empty. -/
def nonEmpty (s : Option String) : Option String :=
  s.filter fun s => !s.isEmpty

namespace Caller

/-- The subject of a caller without any identity. -/
def defaultSubject : String := "default-user"

/-- The subject: the caller's own id, else the asserted one, else the default. -/
def subject (c : Caller) : String :=
  ((nonEmpty c.userId).or (nonEmpty c.assertedId)).getD defaultSubject

end Caller

end CredentialGateway
