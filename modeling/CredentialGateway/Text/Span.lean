/-
Characters that stand for others, given as spans.

The characters of a span follow one another and so do the first characters of their
images; what else an image holds is the same for all of them.  A line of spans is
written as numbers: how many characters lie before the span, how many it holds, and
the image of its first one.
-/
import CredentialGateway.Text.Cut
import CredentialGateway.Text.Runs

namespace CredentialGateway.Text

/-- Consecutive characters with consecutive images. -/
structure Span where
  /-- The first character. -/
  first : Nat
  /-- How many characters there are. -/
  count : Nat
  /-- The image of the first character. -/
  image : List Nat

namespace Span

/-- The image of a code point of the span. -/
def image? (s : Span) (v : Nat) : Option (List Nat) :=
  if s.first ≤ v && v < s.first + s.count then
    match s.image with
    | [] => some []
    | t :: ts => some ((t + (v - s.first)) :: ts)
  else none

/-- The code point of the span that has an image. -/
def origin? (s : Span) (image : List Nat) : Option Nat :=
  match s.image, image with
  | t :: ts, v :: vs =>
    if t ≤ v && v < t + s.count && ts == vs then some (s.first + (v - t)) else none
  | _, _ => none

/-- The spans that rows of numbers write, the first of which counts from `position`. -/
def ofRows : (position : Nat) → List (List Nat) → List Span
  | position, (gap :: count :: image) :: rows =>
    ⟨position + gap, count, image⟩ :: ofRows (position + gap + count) rows
  | _, _ => []

/-- The spans that lines write. -/
def ofLines (lines : List String) : List Span :=
  ofRows 0 (lines.flatMap fun line => (pieces ',' line.toList).map (Runs.numbers 0))

/-- The image of a character under the span that holds it. -/
def find? (spans : List Span) (c : Char) : Option (List Char) :=
  (spans.findSome? fun s => s.image? c.toNat).map fun image => image.map Char.ofNat

end Span

end CredentialGateway.Text
