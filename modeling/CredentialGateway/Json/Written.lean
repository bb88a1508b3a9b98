/-
JSON texts as they are written.

Reading a text has two halves.  This module finds its structure and keeps every
number and string the way the text gives it; nothing is lost, not even members
with equal names.  What the values are is settled later, by whoever needs them: a
value that nobody looks at may hold a number out of range, a broken surrogate
pair or octets that are not UTF-8, and may be nested without a limit.

The reader works on octets.  It is driven by a count of steps that is larger than
any text of that length can use up.
-/
import CredentialGateway.Text.Utf8
import CredentialGateway.Text.Hex

namespace CredentialGateway.Json

/-- A number: sign, digits before the point, digits behind it, and exponent. -/
structure NumberText where
  /-- Whether a minus sign stands in front. -/
  negative : Bool
  /-- The digits before the point. -/
  whole : List Nat
  /-- The digits behind the point, if there is one. -/
  fraction : Option (List Nat)
  /-- Whether the exponent is negative, and its digits, if there is one. -/
  exponent : Option (Bool × List Nat)

/-- A piece of a string. -/
inductive Piece where
  /-- An octet, as it stands or from a one-letter escape. -/
  | octet (b : UInt8)
  /-- A UTF-16 code unit from a four-digit escape. -/
  | unit (u : Nat)

/-- A JSON text by its structure. -/
inductive Written where
  /-- The literal `null`. -/
  | null
  /-- The literals `true` and `false`. -/
  | bool (b : Bool)
  /-- A number. -/
  | number (n : NumberText)
  /-- A string. -/
  | string (pieces : List Piece)
  /-- An array. -/
  | array (items : List Written)
  /-- An object, with its members in their order. -/
  | object (members : List (List Piece × Written))

namespace Written

/-- Whether an octet is white space of the format. -/
def isSpace (b : UInt8) : Bool :=
  b == 0x20 || b == 0x0A || b == 0x0D || b == 0x09

/-- What follows the white space. -/
def skipSpace (bs : List UInt8) : List UInt8 :=
  bs.dropWhile isSpace

/-- What follows a literal word. -/
def afterWord? : (word : List UInt8) → List UInt8 → Option (List UInt8)
  | [], bs => some bs
  | _ :: _, [] => none
  | w :: word, b :: bs => if w = b then afterWord? word bs else none

/-- The value of an ASCII digit. -/
def digit? (b : UInt8) : Option Nat :=
  if 48 ≤ b.toNat ∧ b.toNat ≤ 57 then some (b.toNat - 48) else none

/-- The longest run of digits. -/
def digits : List UInt8 → List Nat × List UInt8
  | [] => ([], [])
  | b :: bs =>
    match digit? b with
    | some d => (d :: (digits bs).1, (digits bs).2)
    | none => ([], b :: bs)

/-- A run of at least one digit. -/
def digits1? (bs : List UInt8) : Option (List Nat × List UInt8) :=
  match digits bs with
  | ([], _) => none
  | found => some found

/-- The digits before the point: a zero stands alone. -/
def whole? (bs : List UInt8) : Option (List Nat × List UInt8) :=
  match digits bs with
  | ([], _) => none
  | ([d], rest) => some ([d], rest)
  | (d :: ds, rest) => if d = 0 then none else some (d :: ds, rest)

/-- The digits behind the point, if there is one. -/
def fraction? : List UInt8 → Option (Option (List Nat) × List UInt8)
  | 0x2E :: bs => (digits1? bs).map fun (ds, rest) => (some ds, rest)
  | bs => some (none, bs)

/-- The sign of an exponent: whether it is minus. -/
def exponentSign : List UInt8 → Bool × List UInt8
  | 0x2B :: bs => (false, bs)
  | 0x2D :: bs => (true, bs)
  | bs => (false, bs)

/-- The exponent, if there is one. -/
def exponent? : List UInt8 → Option (Option (Bool × List Nat) × List UInt8)
  | [] => some (none, [])
  | b :: bs =>
    if b = 0x65 ∨ b = 0x45 then
      (digits1? (exponentSign bs).2).map fun (ds, rest) =>
        (some ((exponentSign bs).1, ds), rest)
    else some (none, b :: bs)

/-- A number behind its sign. -/
def unsigned? (negative : Bool) (bs : List UInt8) : Option (Written × List UInt8) := do
  let (whole, bs) ← whole? bs
  let (fraction, bs) ← fraction? bs
  let (exponent, bs) ← exponent? bs
  return (.number ⟨negative, whole, fraction, exponent⟩, bs)

/-- The octet that a one-letter escape stands for. -/
def escaped? (b : UInt8) : Option UInt8 :=
  match b with
  | 0x22 => some 0x22
  | 0x5C => some 0x5C
  | 0x2F => some 0x2F
  | 0x62 => some 0x08
  | 0x66 => some 0x0C
  | 0x6E => some 0x0A
  | 0x72 => some 0x0D
  | 0x74 => some 0x09
  | _ => none

/-- The code unit that four hexadecimal digits write. -/
def unit? (a b c d : UInt8) : Option Nat := do
  let a ← Hex.octetValue? a
  let b ← Hex.octetValue? b
  let c ← Hex.octetValue? c
  let d ← Hex.octetValue? d
  return a * 4096 + b * 256 + c * 16 + d

/-- The pieces of a string behind its opening quote, up to the closing one. -/
def pieces? : List UInt8 → Option (List Piece × List UInt8)
  | [] => none
  | 0x22 :: bs => some ([], bs)
  | 0x5C :: 0x75 :: a :: b :: c :: d :: bs => do
    let u ← unit? a b c d
    let (ps, rest) ← pieces? bs
    return (.unit u :: ps, rest)
  | 0x5C :: e :: bs => do
    let b ← escaped? e
    let (ps, rest) ← pieces? bs
    return (.octet b :: ps, rest)
  | b :: bs => do
    if b.toNat < 0x20 ∨ b = 0x5C then none
    let (ps, rest) ← pieces? bs
    return (.octet b :: ps, rest)

mutual

/-- One value, with white space in front of it allowed. -/
def value? : (steps : Nat) → List UInt8 → Option (Written × List UInt8)
  | 0, _ => none
  | steps + 1, bs =>
    match skipSpace bs with
    | [] => none
    | b :: rest =>
      if b = 0x22 then (pieces? rest).map fun (ps, rest) => (.string ps, rest)
      else if b = 0x5B then
        match skipSpace rest with
        | 0x5D :: rest => some (.array [], rest)
        | rest => (items? steps rest).map fun (vs, rest) => (.array vs, rest)
      else if b = 0x7B then
        match skipSpace rest with
        | 0x7D :: rest => some (.object [], rest)
        | rest => (members? steps rest).map fun (ms, rest) => (.object ms, rest)
      else if b = 0x2D then unsigned? true rest
      else if b = 0x6E then (afterWord? [0x75, 0x6C, 0x6C] rest).map fun rest => (.null, rest)
      else if b = 0x74 then
        (afterWord? [0x72, 0x75, 0x65] rest).map fun rest => (.bool true, rest)
      else if b = 0x66 then
        (afterWord? [0x61, 0x6C, 0x73, 0x65] rest).map fun rest => (.bool false, rest)
      else unsigned? false (b :: rest)

/-- The items of an array from a first one on, up to the closing bracket. -/
def items? : (steps : Nat) → List UInt8 → Option (List Written × List UInt8)
  | 0, _ => none
  | steps + 1, bs =>
    match value? steps bs with
    | none => none
    | some (v, rest) =>
      match skipSpace rest with
      | 0x2C :: rest => (items? steps rest).map fun (vs, rest) => (v :: vs, rest)
      | 0x5D :: rest => some ([v], rest)
      | _ => none

/-- The members of an object from a first one on, up to the closing brace. -/
def members? : (steps : Nat) → List UInt8 → Option (List (List Piece × Written) × List UInt8)
  | 0, _ => none
  | steps + 1, bs =>
    match skipSpace bs with
    | 0x22 :: rest =>
      match pieces? rest with
      | none => none
      | some (name, rest) =>
        match skipSpace rest with
        | 0x3A :: rest =>
          match value? steps rest with
          | none => none
          | some (v, rest) =>
            match skipSpace rest with
            | 0x2C :: rest =>
              (members? steps rest).map fun (ms, rest) => ((name, v) :: ms, rest)
            | 0x7D :: rest => some ([(name, v)], rest)
            | _ => none
        | _ => none
    | _ => none

end

/-- Read a whole text, with white space around it allowed. -/
def parse? (bs : List UInt8) : Option Written :=
  match value? (2 * bs.length + 1) bs with
  | some (v, rest) => if (skipSpace rest).isEmpty then some v else none
  | none => none

end Written

/-- The octets of a string's pieces: two surrogates in their order are one character, and
one alone is none. -/
def pieceOctets? : List Piece → Option (List UInt8)
  | [] => some []
  | .octet b :: rest => (pieceOctets? rest).map fun bs => b :: bs
  | .unit high :: .unit low :: rest =>
    if 0xD800 ≤ high ∧ high < 0xDC00 then
      if 0xDC00 ≤ low ∧ low < 0xE000 then
        let c := Char.ofNat (0x10000 + (high - 0xD800) * 1024 + (low - 0xDC00))
        (pieceOctets? rest).map fun bs => Utf8.encodeChar c ++ bs
      else none
    else if 0xDC00 ≤ high ∧ high < 0xE000 then none
    else (pieceOctets? (.unit low :: rest)).map fun bs => Utf8.encodeChar (Char.ofNat high) ++ bs
  | .unit u :: rest =>
    if 0xD800 ≤ u ∧ u < 0xE000 then none
    else (pieceOctets? rest).map fun bs => Utf8.encodeChar (Char.ofNat u) ++ bs

/-- The text of a string's pieces. -/
def pieceString? (ps : List Piece) : Option String :=
  (pieceOctets? ps).bind Utf8.string?

end CredentialGateway.Json
