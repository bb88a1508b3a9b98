/-
Sets of characters as alternating runs.

A set is given by the lengths of runs of code points: first how many do not belong to
it, then how many do, and so on; behind the last run none does.  A property with more
than two values is given by the length and the value of every run.
-/

namespace CredentialGateway.Text.Runs

/-- Read decimal numbers separated by single spaces. -/
def numbers : (sofar : Nat) → List Char → List Nat
  | sofar, [] => [sofar]
  | sofar, c :: rest =>
    if c = ' ' then sofar :: numbers 0 rest
    else numbers (sofar * 10 + (c.toNat - 48)) rest

/-- The lengths that lines of numbers write. -/
def ofLines (lines : List String) : List Nat :=
  lines.flatMap fun line => numbers 0 line.toList

/-- Whether the run at an offset belongs to the set; `member` tells it of the first run. -/
def holds : (member : Bool) → (runs : List Nat) → (offset : Nat) → Bool
  | _, [], _ => false
  | member, n :: rest, offset =>
    if offset < n then member else holds (!member) rest (offset - n)

/-- Whether a character belongs to the set. -/
def contains (runs : List Nat) (c : Char) : Bool :=
  holds false runs c.toNat

/-- The value of the run at an offset, where lengths and values take turns. -/
def valueAt : (runs : List Nat) → (offset : Nat) → Nat
  | n :: value :: rest, offset => if offset < n then value else valueAt rest (offset - n)
  | _, _ => 0

end CredentialGateway.Text.Runs
