/-
Cutting lists at prefixes, suffixes and separators, and trimming them.

The functions serve texts, as lists of characters, and octet sequences alike.  Every
one is a plain recursion or a combination of the list functions.
-/

namespace CredentialGateway.Text

/-- Drop the elements of a kind from the front. -/
def trimStart {α : Type} (kind : α → Bool) (text : List α) : List α :=
  text.dropWhile kind

/-- Drop the elements of a kind from the end. -/
def trimEnd {α : Type} (kind : α → Bool) (text : List α) : List α :=
  (text.reverse.dropWhile kind).reverse

/-- Drop the elements of a kind from both ends. -/
def trim {α : Type} (kind : α → Bool) (text : List α) : List α :=
  trimEnd kind (trimStart kind text)

variable {α : Type} [DecidableEq α]

/-- What follows `lead` in a list that starts with it. -/
def after? : (lead : List α) → List α → Option (List α)
  | [], text => some text
  | _ :: _, [] => none
  | l :: lead, c :: text => if l = c then after? lead text else none

/-- What precedes `tail` in a list that ends with it. -/
def before? (tail text : List α) : Option (List α) :=
  (after? tail.reverse text.reverse).map List.reverse

/-- Whether `part` occurs somewhere in a list. -/
def occursIn (part : List α) : List α → Bool
  | [] => part.isEmpty
  | c :: text => part.isPrefixOf (c :: text) || occursIn part text

/-- What stands before the first separator and what stands behind it. -/
def splitFirst? (sep : α) : List α → Option (List α × List α)
  | [] => none
  | c :: text =>
    if c = sep then some ([], text)
    else (splitFirst? sep text).map fun (left, right) => (c :: left, right)

/-- What stands before the last separator and what stands behind it. -/
def splitLast? (sep : α) (text : List α) : Option (List α × List α) :=
  (splitFirst? sep text.reverse).map fun (left, right) => (right.reverse, left.reverse)

/-- All the pieces between separators: one more than there are separators. -/
def pieces (sep : α) : List α → List (List α)
  | [] => [[]]
  | c :: text =>
    if c = sep then [] :: pieces sep text
    else match pieces sep text with
      | [] => [[c]]
      | p :: ps => (c :: p) :: ps

/-- The lower-case form of an ASCII letter; any other character as it is. -/
def lowerAscii (c : Char) : Char :=
  if 'A' ≤ c ∧ c ≤ 'Z' then Char.ofNat (c.toNat + 32) else c

/-- Equality of texts up to the case of ASCII letters. -/
def sameIgnoringCase (a b : List Char) : Bool :=
  a.map lowerAscii = b.map lowerAscii

end CredentialGateway.Text
