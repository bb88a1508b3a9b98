/-
Records read from JSON texts.

A record has fields with fixed names in a fixed order.  Its text is an object, whose
members stand in any order and of which those with other names are passed over, or
an array with the values in the order of the fields.  A name that is no text, and a
field that is given twice, are refused; an array may not be longer than the record.
-/
import CredentialGateway.Json.Value

namespace CredentialGateway.Json

/-- How a text gives a field of a record. -/
inductive Given where
  /-- An object that does not name the field. -/
  | absent
  /-- An array that ends before the field. -/
  | beyond
  /-- A value. -/
  | value (w : Written)

/-- The names and values of an object's members, the values as they are written. -/
def named? : List (List Piece × Written) → Option (List (String × Written))
  | [] => some []
  | (ps, w) :: ms =>
    match pieceString? ps, named? ms with
    | some name, some rest => some ((name, w) :: rest)
    | _, _ => none

/-- What an object says about one field; nothing if it says it twice. -/
def member? (ms : List (String × Written)) (name : String) : Option Given :=
  match ms.filter fun m => m.1 = name with
  | [] => some .absent
  | [m] => some (.value m.2)
  | _ => none

/-- What an array says about fields in their order. -/
def inOrder : (names : List String) → List Written → List Given
  | [], _ => []
  | _ :: names, [] => .beyond :: inOrder names []
  | _ :: names, w :: ws => .value w :: inOrder names ws

/-- What a text says about the fields of a record, in the order of the fields. -/
def fields? (names : List String) : Written → Option (List Given)
  | .object members => (named? members).bind fun ms => names.mapM (member? ms)
  | .array items => if items.length ≤ names.length then some (inOrder names items) else none
  | _ => none

namespace Given

/-- A field that must be there. -/
def required {α : Type} (read : Written → Option α) : Given → Option α
  | .value w => read w
  | _ => none

/-- A value that may be null. -/
def nullable {α : Type} (read : Written → Option α) : Written → Option (Option α)
  | .null => some none
  | w => (read w).map some

/-- A field that an object may leave out, and an array may not. -/
def optional {α : Type} (read : Written → Option α) : Given → Option (Option α)
  | .absent => some none
  | .beyond => none
  | .value w => nullable read w

/-- A field that any text may leave out. -/
def defaulted {α : Type} (read : Written → Option α) : Given → Option (Option α)
  | .value w => nullable read w
  | _ => some none

end Given

namespace Written

/-- A string. -/
def string? : Written → Option String
  | .string ps => pieceString? ps
  | _ => none

/-- A number without sign, fraction and exponent that fits a word. -/
def word? : Written → Option UInt64
  | .number n =>
    if n.negative then none
    else match integer? n with
      | some i => some (UInt64.ofNat i.toNat)
      | none => none
  | _ => none

end Written

end CredentialGateway.Json
