/-
Invisible joiners in names (RFC 5892, appendix A).

A joiner changes how its neighbours look, so a name holds one only where it does: behind
a virama, or, for the one that separates, between letters that would join.
-/
import CredentialGateway.Text.Normal
import CredentialGateway.Url.Host.Domain.Joiner.Table

namespace CredentialGateway.Url.Domain.Joiner

/-- How a character joins to its neighbours. -/
inductive Joining where
  /-- Not at all. -/
  | none
  /-- It lets its neighbours join through it. -/
  | transparent
  /-- To what comes behind it. -/
  | left
  /-- To what comes before it. -/
  | right
  /-- To both. -/
  | both
deriving DecidableEq

/-- How a character joins. -/
def joining (c : Char) : Joining :=
  match Text.Runs.valueAt joinings c.toNat with
  | 1 => .transparent
  | 2 => .left
  | 3 => .right
  | 4 => .both
  | _ => .none

/-- Whether the first character that is not transparent joins in one of these ways. -/
def reaches (kinds : List Joining) (text : List Char) : Bool :=
  match text.dropWhile fun c => joining c == .transparent with
  | [] => false
  | c :: _ => kinds.contains (joining c)

/-- Whether a character is a virama, which has the combining class 9. -/
def isVirama (c : Char) : Bool :=
  Text.Normal.combiningClass c == 9

/-- Whether every joiner has its place, given the characters before, the last one first. -/
def allows : (before : List Char) → List Char → Bool
  | _, [] => true
  | before, c :: text =>
    let placed :=
      if c = '\u200c' then
        before.head?.any isVirama
          || reaches [.left, .both] before && reaches [.right, .both] text
      else if c = '\u200d' then before.head?.any isVirama
      else true
    placed && allows (c :: before) text

end CredentialGateway.Url.Domain.Joiner
