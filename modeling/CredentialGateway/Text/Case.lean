/-
Upper and lower case of whole texts.

Every character is mapped by itself; some become two or three characters (`ß` is
`SS` in upper case).  ASCII letters are answered before any table is consulted.  There
is one rule for whole words, by which a capital sigma at the end of a word has a small
form of its own; it is not followed here, and no search for ASCII letters can tell.
-/
import CredentialGateway.Text.Cut
import CredentialGateway.Text.Case.Table

namespace CredentialGateway.Text

namespace Case

/-- Whether a run holds a code point. -/
def Run.holds (r : Run) (v : Nat) : Bool :=
  r.first ≤ v && v ≤ r.last && (v - r.first) % r.step == 0

/-- The mapping of a character outside ASCII, itself if the tables do not name it. -/
def mapped (runs : List Run) (long : List (Nat × List Nat)) (c : Char) : List Char :=
  match long.lookup c.toNat with
  | some cs => cs.map Char.ofNat
  | none =>
    match runs.find? fun r => r.holds c.toNat with
    | some r => [Char.ofNat (Int.toNat (c.toNat + r.shift))]
    | none => [c]

end Case

/-- The upper-case form of one character. -/
def upperChar (c : Char) : List Char :=
  if c.toNat < 128 then
    if 'a' ≤ c ∧ c ≤ 'z' then [Char.ofNat (c.toNat - 32)] else [c]
  else Case.mapped Case.upperRuns Case.upperLong c

/-- The lower-case form of one character. -/
def lowerChar (c : Char) : List Char :=
  if c.toNat < 128 then [lowerAscii c]
  else Case.mapped Case.lowerRuns Case.lowerLong c

/-- A text in upper case. -/
def upper (text : List Char) : List Char :=
  text.flatMap upperChar

/-- The characters of a text in lower case, each by itself: a capital sigma becomes the same small
one wherever it stands. -/
def lower (text : List Char) : List Char :=
  text.flatMap lowerChar

/-- A string in upper case. -/
def upperString (s : String) : String :=
  String.ofList (upper s.toList)

end CredentialGateway.Text
