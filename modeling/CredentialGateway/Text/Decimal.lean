/-
Decimal numbers with an upper limit.

A number is one optional plus sign and at least one digit.  The digits are read
from the left and the first fault met is the one reported: a character that is
no digit, or a digit that takes the value past the limit.
-/

namespace CredentialGateway.Decimal

/-- Why a text is not a number within the limit. -/
inductive Fault where
  /-- There is no text. -/
  | empty
  /-- A character is not a digit. -/
  | invalidDigit
  /-- The value passes the limit. -/
  | tooLarge
deriving DecidableEq

/-- The fault in words. -/
def Fault.message : Fault → String
  | .empty => "cannot parse integer from empty string"
  | .invalidDigit => "invalid digit found in string"
  | .tooLarge => "number too large to fit in target type"

/-- The value of an ASCII digit. -/
def digit? (c : Char) : Option Nat :=
  if '0' ≤ c ∧ c ≤ '9' then some (c.toNat - 48) else none

/-- Read digits from the left, never passing the limit. -/
def readDigits (limit : Nat) : (sofar : Nat) → List Char → Except Fault Nat
  | sofar, [] => .ok sofar
  | sofar, c :: rest =>
    match digit? c with
    | none => .error .invalidDigit
    | some d =>
      if limit < sofar * 10 + d then .error .tooLarge
      else readDigits limit (sofar * 10 + d) rest

/-- Read a whole text as a number of at most `limit`. -/
def read (limit : Nat) : List Char → Except Fault Nat
  | [] => .error .empty
  | ['+'] => .error .invalidDigit
  | '+' :: digits => readDigits limit 0 digits
  | digits => readDigits limit 0 digits

/-- The digits of a number. -/
def render (n : Nat) : List Char :=
  Nat.toDigits 10 n

end CredentialGateway.Decimal
