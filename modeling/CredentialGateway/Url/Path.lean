/-
Paths of URLs: segments, in which a dot stays in place and two dots go up.

A dot may also be written as its escape.  A path that ends in such a segment ends
in a slash.
-/
import CredentialGateway.Text.Cut
import CredentialGateway.Url.Encode

namespace CredentialGateway.Url.Path

/-- A segment with the escapes of dots undone and letters in lower case. -/
def dots (segment : List Char) : List Char :=
  match segment with
  | '.' :: rest => '.' :: dots rest
  | '%' :: '2' :: e :: rest => if Text.lowerAscii e = 'e' then '.' :: dots rest else ['x']
  | [] => []
  | _ => ['x']

/-- Whether a segment stays in place. -/
def isSingle (segment : List Char) : Bool :=
  dots segment = ['.']

/-- Whether a segment goes up. -/
def isDouble (segment : List Char) : Bool :=
  dots segment = ['.', '.']

/-- Whether a segment is a letter and a colon or bar, as in the paths of drives. -/
def isDrive : List Char → Bool
  | [l, c] => l.isAlpha && (c == ':' || c == '|')
  | _ => false

/-- Leave the last segment; under the file scheme a drive at the start is kept.  That is the rule of
the URL standard.  There are readers that keep a drive wherever two dots come right behind it, under
the schemes of the web too, so that `/C:/..` stays `/C:/` for them. -/
def up (file : Bool) (segments : List (List Char)) : List (List Char) :=
  match segments with
  | [s] => if file && isDrive s then [s] else []
  | _ => segments.dropLast

/-- Add a segment behind the others; under the file scheme a drive at the start gets a colon. -/
def push (file : Bool) (segments : List (List Char)) (segment : List Char) :
    List (List Char) :=
  if file && segments.isEmpty && isDrive segment then [segment.take 1 ++ [':']]
  else segments ++ [escape escapedInPath segment]

/-- Walk along segments; the last one has no slash behind it. -/
def walk (file : Bool) (sofar : List (List Char)) : List (List Char) → List (List Char)
  | [] => sofar
  | [last] =>
    if isDouble last then up file sofar ++ [[]]
    else if isSingle last then sofar ++ [[]]
    else push file sofar last
  | s :: rest =>
    if isDouble s then walk file (up file sofar) rest
    else if isSingle s then walk file sofar rest
    else walk file (push file sofar s) rest

/-- The pieces between slashes; under the schemes of the web a backslash is a slash. -/
def pieces (special : Bool) (text : List Char) : List (List Char) :=
  Text.pieces '/' (if special then text.map fun c => if c = '\\' then '/' else c else text)

/-- The segments of a path behind its first slash. -/
def segments (special file : Bool) (text : List Char) : List (List Char) :=
  walk file [] (pieces special text)

/-- A path by its segments. -/
def render (segments : List (List Char)) : List Char :=
  segments.flatMap fun s => '/' :: s

end CredentialGateway.Url.Path
