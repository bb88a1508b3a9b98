/-
Files of settings for the environment: lines `NAME=VALUE`.

A value may be quoted, and a quoted value may run over line ends.  Loading goes line
by line: a name that the environment has already keeps its value, and the first
line that is not well formed ends the loading, with all before it in effect.

Where a line ends is found by a scan of its own, which knows quotes, backslashes and
a `#` directly behind the first of an odd number of blanks.
-/
import CredentialGateway.Text.Alphanumeric
import CredentialGateway.Text.Blank
import CredentialGateway.Text.Utf8

namespace CredentialGateway.Dotenv

/-- The names and values of an environment. -/
abbrev Environment := List (String × String)

/-- The value of a name in an environment. -/
def valueOf (env : Environment) (name : String) : Option String :=
  (env.find? fun e => e.1 = name).map Prod.snd

/-! ### Where a line ends -/

/-- Where the scan for the end of a line is. -/
inductive Scan where
  /-- Outside quotes. -/
  | outside
  /-- Behind a blank outside quotes. -/
  | blank
  /-- Behind a backslash outside quotes. -/
  | escape
  /-- In single quotes. -/
  | single
  /-- Behind a backslash in single quotes. -/
  | singleEscape
  /-- In double quotes. -/
  | double
  /-- Behind a backslash in double quotes. -/
  | doubleEscape
deriving DecidableEq

/-- The scan behind one more character, when that does not start a comment. -/
def Scan.next (s : Scan) (c : Char) : Scan :=
  let plain (blank : Bool) : Scan :=
    if c = '\\' then escape
    else if c = '"' then double
    else if c = '\x27' then single
    else if blank && Text.isBlank c && c != '\n' && c != '\r' then Scan.blank
    else outside
  match s with
  | outside => plain true
  | blank => plain false
  | escape => outside
  | single => if c = '\\' then singleEscape else if c = '\x27' then outside else single
  | singleEscape => single
  | double => if c = '\\' then doubleEscape else if c = '"' then outside else double
  | doubleEscape => double

/-- What a scan of a line found. -/
inductive Found where
  /-- A comment; what stands before it. -/
  | comment (front : List Char)
  /-- The end of the line. -/
  | finish (s : Scan)

/-- Scan a line. -/
def scan (s : Scan) : List Char → Found
  | [] => .finish s
  | c :: rest =>
    if s = .blank ∧ c = '#' then .comment []
    else match scan (s.next c) rest with
      | .comment front => .comment (c :: front)
      | .finish s => .finish s

/-- A line without the line end behind it. -/
def chomp (line : List Char) : List Char :=
  match line.reverse with
  | '\n' :: '\r' :: front => front.reverse
  | '\n' :: front => front.reverse
  | _ => line

/-- Octets cut behind every line end. -/
def physicalLines : List UInt8 → List (List UInt8)
  | [] => []
  | b :: rest =>
    if b = 0x0A then [b] :: physicalLines rest
    else match physicalLines rest with
      | [] => [[b]]
      | l :: ls => (b :: l) :: ls

/-- The lines of a file, with `none` where it is not well formed, which ends it.  A quoted value
joins the lines it runs over; the start of a line that goes on is `pending`. -/
def linesFrom (pending : List Char) (s : Scan) : List (List UInt8) → List (Option (List Char))
  | [] => if s = .outside then [] else [none]
  | bytes :: rest =>
    match Utf8.decode? bytes with
    | none => [none]
    | some line =>
      let whole := pending ++ line
      if (Text.trimStart Text.isBlank whole).head? = some '#' then
        some [] :: linesFrom [] .outside rest
      else match scan s line with
        | .comment front => some (pending ++ front) :: linesFrom [] .outside rest
        | .finish .outside => some (chomp whole) :: linesFrom [] .outside rest
        | .finish s => linesFrom whole s rest

/-- The octets of a file without a byte order mark in front. -/
def withoutMark : List UInt8 → List UInt8
  | 0xEF :: 0xBB :: 0xBF :: rest => rest
  | bytes => bytes

/-- The lines of a file. -/
def lines (file : List UInt8) : List (Option (List Char)) :=
  linesFrom [] .outside (physicalLines (withoutMark file))

/-! ### What a line says -/

/-- Where the reading of a value is. -/
inductive Reading where
  /-- Outside single quotes; inside or outside double ones. -/
  | plain (quoted : Bool)
  /-- In single quotes. -/
  | literal
  /-- Behind a backslash. -/
  | escape (quoted : Bool)
  /-- In a name behind `$`. -/
  | name (quoted : Bool) (sofar : List Char)
  /-- In a name between braces. -/
  | braced (quoted : Bool) (sofar : List Char)
  /-- Behind the value. -/
  | behind

/-- The value of a name, or no text. -/
def expansion (env : Environment) (name : List Char) : List Char :=
  ((valueOf env (String.ofList name)).map String.toList).getD []

/-- The character that an escape stands for. -/
def escaped? (c : Char) : Option Char :=
  if c = 'n' then some '\n'
  else if ['\\', '\x27', '"', '$', ' '].contains c then some c
  else none

/-- Read a value; nothing if it is not well formed. -/
def value? (env : Environment) (r : Reading) : List Char → Option (List Char)
  | [] =>
    match r with
    | .plain quoted => if quoted then none else some []
    | .literal => none
    | .escape quoted => if quoted then none else some []
    | .name quoted sofar => if quoted then none else some (expansion env sofar)
    | .braced _ _ => none
    | .behind => some []
  | c :: rest =>
    match r with
    | .behind =>
      if c = ' ' ∨ c = '\t' then value? env .behind rest
      else if c = '#' then some []
      else none
    | .escape quoted =>
      match escaped? c, value? env (.plain quoted) rest with
      | some e, some v => some (e :: v)
      | _, _ => none
    | .literal =>
      if c = '\x27' then value? env (.plain false) rest
      else (value? env .literal rest).map fun v => c :: v
    | .name quoted sofar =>
      if Text.isAlphanumeric c then value? env (.name quoted (sofar ++ [c])) rest
      else if c = '\x7b' ∧ sofar = [] then value? env (.braced quoted []) rest
      else if c = '$' then
        (value? env (.name quoted []) rest).map fun v => expansion env sofar ++ v
      else (value? env (.plain quoted) rest).map fun v => expansion env sofar ++ c :: v
    | .braced quoted sofar =>
      if c = '\x7d' then
        (value? env (.plain quoted) rest).map fun v => expansion env sofar ++ v
      else value? env (.braced quoted (sofar ++ [c])) rest
    | .plain true =>
      if c = '$' then value? env (.name true []) rest
      else if c = '"' then value? env (.plain false) rest
      else if c = '\\' then value? env (.escape true) rest
      else (value? env (.plain true) rest).map fun v => c :: v
    | .plain false =>
      if c = '$' then value? env (.name false []) rest
      else if c = '\x27' then value? env .literal rest
      else if c = '"' then value? env (.plain true) rest
      else if c = '\\' then value? env (.escape false) rest
      else if c = ' ' ∨ c = '\t' then value? env .behind rest
      else (value? env (.plain false) rest).map fun v => c :: v

/-- Whether a character may stand in a name. -/
def isNameChar (c : Char) : Bool :=
  c.isAlphanum || c == '_' || c == '.'

/-- A name and what stands behind it. -/
def name? (text : List Char) : Option (List Char × List Char) :=
  match text with
  | [] => none
  | c :: _ =>
    if c.isAlpha || c == '_' then
      let name := text.takeWhile isNameChar
      some (name, text.drop name.length)
    else none

/-- A text without white space in front. -/
def skipBlank (text : List Char) : List Char :=
  Text.trimStart Text.isBlank text

/-- What stands behind an equals sign. -/
def afterEquals? : List Char → Option (List Char)
  | '=' :: rest => some rest
  | _ => none

/-- A name, and what stands behind its equals sign.  The word `export` may stand in front of the
name; it is a name itself when the equals sign follows it. -/
def assignment? (text : List Char) : Option (List Char × List Char) := do
  let (name, rest) ← name? text
  let rest := skipBlank rest
  match afterEquals? rest with
  | some value => return (name, value)
  | none =>
    if name = "export".toList then
      let (name, rest) ← name? rest
      return (name, ← afterEquals? (skipBlank rest))
    else none

/-- What a line is. -/
inductive Line where
  /-- It says nothing. -/
  | empty
  /-- It gives a name a value. -/
  | assign (name value : String)
  /-- It is not well formed. -/
  | bad

/-- Read a line. -/
def readLine (env : Environment) (line : List Char) : Line :=
  let text := skipBlank (Text.trimEnd Text.isBlank line)
  if text.isEmpty || text.head? = some '#' then .empty
  else match assignment? text with
    | none => .bad
    | some (name, rest) =>
      let rest := skipBlank rest
      if rest.head? = some '#' then .assign (String.ofList name) ""
      else match value? env (.plain false) rest with
        | some v => .assign (String.ofList name) (String.ofList v)
        | none => .bad

/-- Give a name a value, unless it has one. -/
def define (env : Environment) (name value : String) : Environment :=
  if (valueOf env name).isSome then env else env ++ [(name, value)]

/-- Load lines until the first one that is not well formed. -/
def loadLines (env : Environment) : List (Option (List Char)) → Environment
  | [] => env
  | none :: _ => env
  | some line :: rest =>
    match readLine env line with
    | .empty => loadLines env rest
    | .assign name value => loadLines (define env name value) rest
    | .bad => env

/-- The environment with a file loaded into it. -/
def load (env : Environment) (file : List UInt8) : Environment :=
  loadLines env (lines file)

/-- The environment with the nearest file loaded into it, given what each directory holds, the
nearest one first. -/
def loadNearest (env : Environment) (files : List (Option (List UInt8))) : Environment :=
  match files.findSome? id with
  | some file => load env file
  | none => env

end CredentialGateway.Dotenv
