/-
References to names inside texts.

A reference is written `${NAME}`, `{$NAME}` or `$NAME`, with a name of ASCII letters,
digits and underscores that is as long as possible.  A text is cut into segments from
left to right, at each place by the first form that fits there.  The cut depends on
the text alone: no value takes part in it.
-/

namespace CredentialGateway.Reference

/-- The characters of a name. -/
def isNameChar (c : Char) : Bool :=
  ('A' ≤ c && c ≤ 'Z') || ('a' ≤ c && c ≤ 'z') || ('0' ≤ c && c ≤ '9') || c == '_'

/-- The longest name at the start of a text. -/
def nameAt (text : List Char) : List Char :=
  text.takeWhile isNameChar

/-- A name that ends in a closing brace. -/
def bracedName? (text : List Char) : Option (List Char) :=
  let name := nameAt text
  if name.isEmpty then none
  else if text[name.length]? = some '\x7d' then some name
  else none

/-- A name without braces. -/
def bareName? (text : List Char) : Option (List Char) :=
  let name := nameAt text
  if name.isEmpty then none else some name

/-- The name of a reference at the start of a text, and how many characters the reference
has behind its first one. -/
def at? : List Char → Option (List Char × Nat)
  | '$' :: '\x7b' :: text => (bracedName? text).map fun name => (name, name.length + 2)
  | '\x7b' :: '$' :: text => (bracedName? text).map fun name => (name, name.length + 2)
  | '$' :: text => (bareName? text).map fun name => (name, name.length)
  | _ => none

/-- A piece of a text. -/
inductive Segment where
  /-- A character that belongs to no reference. -/
  | literal (c : Char)
  /-- A reference: the name, and the reference as it is written. -/
  | reference (name : String) (written : List Char)
deriving DecidableEq

/-- The text of a segment. -/
def Segment.text : Segment → List Char
  | .literal c => [c]
  | .reference _ written => written

/-- Cut a text into segments; `skip` characters belong to the reference before them. -/
def segmentsFrom : (skip : Nat) → List Char → List Segment
  | _, [] => []
  | skip + 1, _ :: rest => segmentsFrom skip rest
  | 0, c :: rest =>
    match at? (c :: rest) with
    | some (name, more) =>
      .reference (String.ofList name) (c :: rest.take more) :: segmentsFrom more rest
    | none => .literal c :: segmentsFrom 0 rest

/-- Cut a text into segments. -/
def segments (text : List Char) : List Segment :=
  segmentsFrom 0 text

end CredentialGateway.Reference
