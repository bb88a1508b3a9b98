/-
Request targets: what stands behind the method in a request.

A target is a path with a query, a whole URL, a host alone or an asterisk.  Only the
characters are checked, and the brackets, colons and signs of the host; a fragment
is dropped.
-/
import CredentialGateway.Text.Cut
import CredentialGateway.Text.Utf8

namespace CredentialGateway.Http

/-- A request target by its parts. -/
structure Uri where
  /-- The scheme, if there is one. -/
  scheme : Option (List Char)
  /-- User, host and port, if they are there. -/
  authority : Option (List Char)
  /-- The path. -/
  path : List Char
  /-- The query behind `?`. -/
  query : Option (List Char)
deriving DecidableEq

namespace Uri

/-- Whether a character may stand in a path. -/
def isPathChar (c : Char) : Bool :=
  let v := c.toNat
  v == 0x21 || v == 0x22 || (0x24 ≤ v && v ≤ 0x3B) || v == 0x3D || (0x40 ≤ v && v ≤ 0x5F) ||
    0x61 ≤ v

/-- Whether a character may stand in a query. -/
def isQueryChar (c : Char) : Bool :=
  let v := c.toNat
  v == 0x21 || (0x24 ≤ v && v ≤ 0x3B) || v == 0x3D || 0x3F ≤ v

/-- Read a path and a query, up to a fragment. -/
def pathAndQuery? (text : List Char) : Option (List Char × Option (List Char)) :=
  let front := text.takeWhile fun c => c != '#'
  let path := front.takeWhile fun c => c != '?'
  let query := (front.drop path.length).tail?
  if path.all isPathChar && (query.getD []).all isQueryChar then some (path, query) else none

/-- Whether a character may stand in an authority, escapes apart. -/
def isAuthorityChar (c : Char) : Bool :=
  c.isAlphanum || ['!', '$', '&', '\x27', '(', ')', '*', '+', ',', '-', '.', ':', ';', '=',
    '@', '[', ']', '_', '~'].contains c

/-- What has been seen of an authority. -/
structure Seen where
  /-- Colons since the last `@` or bracket. -/
  colons : Nat
  /-- Whether a bracket was opened. -/
  opened : Bool
  /-- Whether it was closed. -/
  closed : Bool
  /-- Whether there was a `%` since the last `@` or bracket. -/
  percent : Bool
  /-- Whether the last character was an `@`. -/
  atSign : Bool

/-- See one more character of an authority. -/
def Seen.next? (s : Seen) (c : Char) : Option Seen :=
  let s := { s with atSign := false }
  if c = ':' then if 8 ≤ s.colons then none else some { s with colons := s.colons + 1 }
  else if c = '[' then
    if s.percent || s.opened then none else some { s with opened := true }
  else if c = ']' then
    if s.closed || !s.opened then none
    else some { s with closed := true, colons := 0, percent := false }
  else if c = '@' then some { s with colons := 0, percent := false, atSign := true }
  else if c = '%' then some { s with percent := true }
  else if isAuthorityChar c then some s
  else none

/-- See all characters of an authority. -/
def seen? (s : Seen) : List Char → Option Seen
  | [] => some s
  | c :: rest => (s.next? c).bind fun s => seen? s rest

/-- Whether a text is an authority: one bracket pair and one port at most, something behind the
last `@`, and escapes only before it or in brackets. -/
def isAuthority (text : List Char) : Bool :=
  match seen? ⟨0, false, false, false, false⟩ text with
  | none => false
  | some s => s.opened == s.closed && s.colons ≤ 1 && !s.atSign && !s.percent

/-- Whether a character ends an authority. -/
def endsAuthority (c : Char) : Bool :=
  c == '/' || c == '?' || c == '#'

/-- Whether a character may stand in a scheme. -/
def isSchemeChar (c : Char) : Bool :=
  c.isAlphanum || c == '+' || c == '-' || c == '.'

/-- The scheme in front of `://`, and what stands behind that. -/
def scheme? (text : List Char) : Option (List Char × List Char) :=
  let scheme := text.takeWhile isSchemeChar
  match text.drop scheme.length with
  | ':' :: '/' :: '/' :: rest => some (scheme, rest)
  | _ => none

/-- How long a scheme may be. -/
def maxScheme : Nat := 64

/-- A scheme as it is shown: that of the web in lower case. -/
def shownScheme (scheme : List Char) : List Char :=
  let lower := scheme.map Text.lowerAscii
  if lower = "http".toList || lower = "https".toList then lower else scheme

/-- Read a target that does not start with a slash. -/
def ofFull? (text : List Char) : Option Uri :=
  match scheme? text with
  | none => if isAuthority text then some ⟨none, some text, [], none⟩ else none
  | some (scheme, rest) =>
    let authority := rest.takeWhile fun c => !endsAuthority c
    if maxScheme < scheme.length || authority.isEmpty || !isAuthority authority then none
    else (pathAndQuery? (rest.drop authority.length)).map fun (path, query) =>
      ⟨some (shownScheme scheme), some authority, if path.isEmpty then ['/'] else path, query⟩

/-- How many octets a target may have. -/
def maxOctets : Nat := 65534

/-- Read a target. -/
def parse? (text : String) : Option Uri :=
  if maxOctets < text.utf8ByteSize then none
  else match text.toList with
    | [] => none
    | ['*'] => some ⟨none, none, ['*'], none⟩
    | '/' :: rest =>
      (pathAndQuery? ('/' :: rest)).map fun (path, query) => ⟨none, none, path, query⟩
    | chars => ofFull? chars

/-- The path as a string. -/
def pathText (u : Uri) : String :=
  String.ofList u.path

/-- The query as a string. -/
def queryText (u : Uri) : Option String :=
  u.query.map String.ofList

/-- The target in its written form. -/
def render (u : Uri) : String :=
  let scheme := (u.scheme.map fun s => s ++ "://".toList).getD []
  let query := (u.query.map fun q => '?' :: q).getD []
  String.ofList (scheme ++ u.authority.getD [] ++ u.path ++ query)

end Uri

end CredentialGateway.Http
