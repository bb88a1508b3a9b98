/-
UTF-8 between characters and octets.

`encode` writes every character in its one shortest form.  `decode` is a machine that
reads one octet at a time; what it remembers between octets is how many
continuation octets it still waits for and in which range the next one must lie.
The range does all the work: the overlong forms, the surrogates and the values
past U+10FFFF are kept out by the range of the second octet alone.

`decode` yields one item per character and one `none` per ill-formed run, where a
run is the longest start of a well-formed character.  The strict reader and the
lenient one differ only in what they do with `none`.
-/

namespace CredentialGateway.Utf8

/-- The octets of one character, in the shortest form that holds it. -/
def encodeChar (c : Char) : List UInt8 :=
  let v := c.toNat
  if v < 0x80 then
    [UInt8.ofNat v]
  else if v < 0x800 then
    [UInt8.ofNat (0xC0 + v / 64), UInt8.ofNat (0x80 + v % 64)]
  else if v < 0x10000 then
    [UInt8.ofNat (0xE0 + v / 4096), UInt8.ofNat (0x80 + v / 64 % 64),
      UInt8.ofNat (0x80 + v % 64)]
  else
    [UInt8.ofNat (0xF0 + v / 262144), UInt8.ofNat (0x80 + v / 4096 % 64),
      UInt8.ofNat (0x80 + v / 64 % 64), UInt8.ofNat (0x80 + v % 64)]

/-- The octets of a text, character after character. -/
def encode (cs : List Char) : List UInt8 :=
  cs.flatMap encodeChar

/-- The octets of a string. -/
def encodeString (s : String) : List UInt8 :=
  encode s.toList

/-- A character of which some octets have been read. -/
structure Pending where
  /-- Continuation octets owed after the next one. -/
  owed : Nat
  /-- The least octet that may come next. -/
  least : Nat
  /-- The greatest octet that may come next. -/
  greatest : Nat
  /-- The bits read so far. -/
  bits : Nat
deriving DecidableEq

/-- What the first octet of a character says. -/
inductive Lead where
  /-- The octet is the whole character. -/
  | whole (c : Char)
  /-- More octets follow. -/
  | more (p : Pending)
  /-- No character starts with this octet. -/
  | stray
deriving DecidableEq

/-- Read the first octet of a character. -/
def lead (b : UInt8) : Lead :=
  let v := b.toNat
  if v < 0x80 then .whole (Char.ofNat v)
  else if v < 0xC2 then .stray
  else if v < 0xE0 then .more ⟨0, 0x80, 0xBF, v - 0xC0⟩
  else if v = 0xE0 then .more ⟨1, 0xA0, 0xBF, 0⟩
  else if v = 0xED then .more ⟨1, 0x80, 0x9F, 0xD⟩
  else if v < 0xF0 then .more ⟨1, 0x80, 0xBF, v - 0xE0⟩
  else if v = 0xF0 then .more ⟨2, 0x90, 0xBF, 0⟩
  else if v < 0xF4 then .more ⟨2, 0x80, 0xBF, v - 0xF0⟩
  else if v = 0xF4 then .more ⟨2, 0x80, 0x8F, 4⟩
  else .stray

/-- The machine before the first octet of a character. -/
def start (b : UInt8) : List (Option Char) × Option Pending :=
  match lead b with
  | .whole c => ([some c], none)
  | .more p => ([], some p)
  | .stray => ([none], none)

/-- One octet: the items that are complete with it, and what is remembered. -/
def step (state : Option Pending) (b : UInt8) : List (Option Char) × Option Pending :=
  match state with
  | none => start b
  | some p =>
    if p.least ≤ b.toNat ∧ b.toNat ≤ p.greatest then
      let bits := p.bits * 64 + b.toNat % 64
      match p.owed with
      | 0 => ([some (Char.ofNat bits)], none)
      | owed + 1 => ([], some ⟨owed, 0x80, 0xBF, bits⟩)
    else
      let (items, next) := start b
      (none :: items, next)

/-- Run the machine to the end; an unfinished character is one ill-formed run. -/
def decodeFrom (state : Option Pending) : List UInt8 → List (Option Char)
  | [] => if state.isSome then [none] else []
  | b :: rest => (step state b).1 ++ decodeFrom (step state b).2 rest

/-- The characters of an octet sequence, with `none` for each ill-formed run. -/
def decode (bytes : List UInt8) : List (Option Char) :=
  decodeFrom none bytes

/-- The text, or nothing if any octet is out of place. -/
def decode? (bytes : List UInt8) : Option (List Char) :=
  (decode bytes).mapM id

/-- The text with the replacement character for each ill-formed run. -/
def decodeLenient (bytes : List UInt8) : List Char :=
  (decode bytes).map fun item => item.getD '\uFFFD'

/-- The string of an octet sequence, or nothing if any octet is out of place. -/
def string? (bytes : List UInt8) : Option String :=
  (decode? bytes).map String.ofList

end CredentialGateway.Utf8
