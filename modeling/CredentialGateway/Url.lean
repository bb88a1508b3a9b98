/-
URLs, read the lenient way that browsers and HTTP clients do.

Control characters and spaces around a text are dropped, tabs and line ends within
it too.  The schemes of the web are special: they always have a host, any number of
slashes and backslashes may stand before it, and their default port is not kept.
-/
import CredentialGateway.Text.Cut
import CredentialGateway.Url.Host
import CredentialGateway.Url.Path

namespace CredentialGateway

/-- A URL by its parts, each in its escaped form. -/
structure Url where
  /-- The scheme, in lower case. -/
  scheme : List Char
  /-- The user name. -/
  user : List Char
  /-- The password. -/
  password : List Char
  /-- The host, if there is one. -/
  host : Option Url.Host
  /-- The port, if it is not the default one. -/
  port : Option Nat
  /-- The path, with its slashes. -/
  path : List Char
  /-- The query behind `?`. -/
  query : Option (List Char)
  /-- The fragment behind `#`. -/
  fragment : Option (List Char)
deriving DecidableEq

namespace Url

/-! ### The scheme -/

/-- Whether a character is a control character or a space. -/
def isOuter (c : Char) : Bool :=
  c.toNat ≤ 0x20

/-- Whether a character is dropped wherever it stands. -/
def isIgnored (c : Char) : Bool :=
  c == '\t' || c == '\n' || c == '\r'

/-- A text without the characters that do not count. -/
def clean (text : List Char) : List Char :=
  (Text.trim isOuter text).filter fun c => !isIgnored c

/-- Whether a character may stand in a scheme. -/
def isSchemeChar (c : Char) : Bool :=
  c.isAlphanum || c == '+' || c == '-' || c == '.'

/-- The scheme in lower case, and what stands behind its colon. -/
def scheme? (text : List Char) : Option (List Char × List Char) :=
  let scheme := text.takeWhile isSchemeChar
  match text.drop scheme.length with
  | ':' :: rest =>
    if (scheme.head?.map Char.isAlpha).getD false then some (scheme.map Text.lowerAscii, rest)
    else none
  | _ => none

/-- The default ports of the special schemes that have one. -/
def defaultPort? (scheme : List Char) : Option Nat :=
  [("http".toList, 80), ("https".toList, 443), ("ws".toList, 80), ("wss".toList, 443),
    ("ftp".toList, 21)].lookup scheme

/-- Whether a scheme is special and not that of files. -/
def isSpecial (scheme : List Char) : Bool :=
  (defaultPort? scheme).isSome

/-- Whether a scheme is one of HTTP. -/
def isHttp (scheme : List Char) : Bool :=
  scheme = "http".toList || scheme = "https".toList

/-! ### The parts -/

/-- A path, a query and a fragment, not yet escaped. -/
structure Tail where
  /-- All before `?` and `#`. -/
  path : List Char
  /-- What stands behind `?`. -/
  query : Option (List Char)
  /-- What stands behind `#`. -/
  fragment : Option (List Char)

/-- Cut off the fragment, then the query. -/
def tail (text : List Char) : Tail :=
  let (front, fragment) := match Text.splitFirst? '#' text with
    | some (front, fragment) => (front, some fragment)
    | none => (text, none)
  match Text.splitFirst? '?' front with
  | some (path, query) => ⟨path, some query, fragment⟩
  | none => ⟨front, none, fragment⟩

/-- Whether a character ends the part with user, host and port. -/
def endsAuthority (special : Bool) (c : Char) : Bool :=
  c == '/' || c == '?' || c == '#' || (special && c == '\\')

/-- User name and password before the last `@`, and what stands behind it. -/
def splitUser (authority : List Char) : Option (List Char × List Char) × List Char :=
  match Text.splitLast? '@' authority with
  | none => (none, authority)
  | some (front, rest) =>
    match Text.splitFirst? ':' front with
    | some (user, password) => (some (user, password), rest)
    | none => (some (front, []), rest)

/-- The text up to the first colon outside brackets, and that colon with the rest. -/
def splitPort : (inside : Bool) → List Char → List Char × List Char
  | _, [] => ([], [])
  | inside, c :: rest =>
    if c = ':' ∧ inside = false then ([], c :: rest)
    else
      let (host, port) := splitPort (c == '[' || (inside && c != ']')) rest
      (c :: host, port)

/-- The port behind a colon: nothing if it is empty or the default one. -/
def port? (scheme : List Char) : List Char → Option (Option Nat)
  | ':' :: ds =>
    if ds.all Char.isDigit then
      let n := ds.foldl (fun n c => n * 10 + (c.toNat - 48)) 0
      if 65535 < n then none
      else if ds.isEmpty || defaultPort? scheme = some n then some none
      else some (some n)
    else none
  | _ => some none

/-- Put a URL together from a scheme, what the authority gave and the rest of the text. -/
def assemble (scheme : List Char) (user : List Char × List Char) (host : Option Host)
    (port : Option Nat) (path : List Char) (t : Tail) : Url where
  scheme := scheme
  user := escape escapedInUser user.1
  password := escape escapedInUser user.2
  host := host
  port := port
  path := path
  query := t.query.map (escape (escapedInQuery (isSpecial scheme || scheme = "file".toList)))
  fragment := t.fragment.map (escape escapedInFragment)

/-- The path behind a host: a special scheme always has one. -/
def hostPath (special : Bool) (text : List Char) : List Char :=
  match text with
  | [] => if special then ['/'] else []
  | c :: rest =>
    if c = '/' || (special && c = '\\') then Path.render (Path.segments special false rest)
    else Path.render (Path.segments special false text)

/-- Read a URL from its user, host and port on. -/
def ofAuthority? (scheme text : List Char) : Option Url := do
  let special := isSpecial scheme
  let authority := text.takeWhile fun c => !endsAuthority special c
  let t := tail (text.drop authority.length)
  let (user, hostAndPort) := splitUser authority
  let (hostText, portText) := splitPort false hostAndPort
  let port ← port? scheme portText
  let path := hostPath special t.path
  if hostText.isEmpty then
    if special || !portText.isEmpty || (user.getD ([], [])) ≠ ([], []) then none
    else some (assemble scheme ([], []) none none path t)
  else
    let host ← if special then Host.special? hostText else Host.other? hostText
    some (assemble scheme (user.getD ([], [])) (some host) port path t)

/-! ### The file scheme -/

/-- Whether a character is a slash of either kind. -/
def isSlash (c : Char) : Bool :=
  c == '/' || c == '\\'

/-- Read a URL of the file scheme.  A host is kept unless it is the local one or the path
starts with a drive. -/
def ofFile? (scheme text : List Char) : Option Url :=
  match text with
  | a :: b :: rest =>
    if isSlash a && isSlash b then
      let hostText := rest.takeWhile fun c => !endsAuthority true c
      if hostText.isEmpty || Path.isDrive hostText then noHost rest
      else do
        let host ← Host.special? hostText
        let t := tail (rest.drop hostText.length)
        let segments := Path.segments true true (t.path.drop 1)
        let drive := (Path.pieces true (t.path.drop 1)).head?.any Path.isDrive
        let kept := if drive || host = .domain "localhost".toList then none else some host
        some (assemble scheme ([], []) kept none (Path.render segments) t)
    else noHost text
  | _ => noHost text
where
  /-- A URL without a host, from its path on. -/
  noHost (text : List Char) : Option Url :=
    let t := tail text
    let path := if (t.path.head?.map isSlash).getD false then t.path.drop 1 else t.path
    some (assemble scheme ([], []) none none (Path.render (Path.segments true true path)) t)

/-! ### Whole URLs -/

/-- Read what stands behind the colon of a scheme. -/
def ofScheme? (scheme rest : List Char) : Option Url :=
  if scheme = "file".toList then ofFile? scheme rest
  else if isSpecial scheme then ofAuthority? scheme (rest.dropWhile isSlash)
  else match rest with
    | '/' :: '/' :: text => ofAuthority? scheme text
    | '/' :: text =>
      let t := tail text
      some (assemble scheme ([], []) none none
        (Path.render (Path.segments false false t.path)) t)
    | _ =>
      let t := tail rest
      some (assemble scheme ([], []) none none (escape isControl t.path) t)

/-- Read a whole URL. -/
def parse? (text : String) : Option Url := do
  let (scheme, rest) ← scheme? (clean text.toList)
  ofScheme? scheme rest

/-- User name and password as they stand before a host. -/
def renderUser (u : Url) : List Char :=
  if u.user.isEmpty && u.password.isEmpty then []
  else u.user ++ (if u.password.isEmpty then [] else ':' :: u.password) ++ ['@']

/-- A part with its mark in front, if it is there. -/
def marked (mark : Char) (part : Option (List Char)) : List Char :=
  match part with
  | some text => mark :: text
  | none => []

/-- The written form of a URL with a host, without its user and fragment. -/
def renderRequest (u : Url) : List Char :=
  u.scheme ++ "://".toList ++ ((u.host.map Host.render).getD []) ++
    marked ':' (u.port.map (Nat.toDigits 10)) ++ u.path ++ marked '?' u.query

/-- The written form of a URL with a host. -/
def render (u : Url) : List Char :=
  u.scheme ++ "://".toList ++ renderUser u ++ ((u.host.map Host.render).getD []) ++
    marked ':' (u.port.map (Nat.toDigits 10)) ++ u.path ++ marked '?' u.query ++
    marked '#' u.fragment

/-- The host in its written form. -/
def hostText? (u : Url) : Option String :=
  u.host.map fun h => String.ofList h.render

end Url

end CredentialGateway
