/-
Names of two directions of writing (RFC 5893).

If a name holds a character that is written from right to left, each of its labels has
to run in one direction, so that no two names look alike.
-/
import CredentialGateway.Url.Host.Domain.Bidi.Table

namespace CredentialGateway.Url.Domain.Bidi

/-- The direction of a character. -/
inductive Direction where
  /-- From left to right. -/
  | left
  /-- From right to left. -/
  | right
  /-- A number that is written among letters from right to left. -/
  | arabicNumber
  /-- A number that is written among letters from left to right. -/
  | europeanNumber
  /-- The direction of the character before it. -/
  | mark
  /-- No direction of its own. -/
  | neutral
  /-- The direction of a whole text. -/
  | control
deriving DecidableEq

/-- The direction of a character. -/
def direction (c : Char) : Direction :=
  match Text.Runs.valueAt directions c.toNat with
  | 0 => .left
  | 1 => .right
  | 2 => .arabicNumber
  | 3 => .europeanNumber
  | 4 => .mark
  | 5 => .neutral
  | _ => .control

/-- Whether a label of one direction holds a character of another. -/
def Direction.allowed (label : Direction) : Direction → Bool
  | .left => label == .left
  | .right | .arabicNumber => label == .right
  | .europeanNumber | .mark | .neutral => true
  | .control => false

/-- Whether a label of one direction ends in a character of another. -/
def Direction.ends (label : Direction) : Direction → Bool
  | .europeanNumber => true
  | .arabicNumber => label == .right
  | last => last == label

/-- Whether the characters of a label run in one direction, that of the first. -/
def Direction.runs (label : List Direction) : Bool :=
  match label with
  | [] => true
  | first :: _ =>
    (first == .left || first == .right)
      && label.all first.allowed
      && !(label.contains .europeanNumber && label.contains .arabicNumber)
      && match label.reverse.dropWhile (· == .mark) with
        | [] => false
        | last :: _ => first.ends last

/-- Whether the directions of a name are in order. -/
def allows (labels : List (List Char)) : Bool :=
  let labels := labels.map fun label => label.map direction
  let rightward := labels.any fun label =>
    label.contains .right || label.contains .arabicNumber
  !rightward || labels.all Direction.runs

end CredentialGateway.Url.Domain.Bidi
