/-
Punycode: texts of any script as letters, digits and hyphens (RFC 3492).

The ASCII characters of a text come first, then a hyphen, then a number for every other
character.  Ordered by code point and position, the other characters are insertions
into the text that grows; the number of an insertion counts the possible ones between
the last one and it.
-/
import CredentialGateway.Text.Cut

namespace CredentialGateway.Url.Domain.Punycode

/-! ### Digits -/

/-- The digit of a value below 36: letters first. -/
def digit (v : Nat) : Char :=
  if v < 26 then Char.ofNat (97 + v) else Char.ofNat (22 + v)

/-- The value of a digit; only lower-case letters are digits. -/
def value? (c : Char) : Option Nat :=
  if 'a' ≤ c ∧ c ≤ 'z' then some (c.toNat - 97)
  else if '0' ≤ c ∧ c ≤ '9' then some (c.toNat - 22)
  else none

/-- The digits below the threshold of their place end a number. -/
def threshold (place bias : Nat) : Nat :=
  min 26 (max 1 (place - bias))

theorem threshold_pos (place bias : Nat) : 1 ≤ threshold place bias := by
  unfold threshold; omega

theorem threshold_le (place bias : Nat) : threshold place bias ≤ 26 := by
  unfold threshold; omega

/-- Divide by 35 down to at most 455, adding 36 for each division. -/
def scaled (delta : Nat) : Nat :=
  if 455 < delta then 36 + scaled (delta / 35) else 36 * delta / (delta + 38)
termination_by delta

/-- The bias for the number behind `delta`, when a text has `length` characters. -/
def bias (first : Bool) (delta length : Nat) : Nat :=
  let delta := if first then delta / 700 else delta / 2
  scaled (delta + delta / length)

/-! ### Writing -/

/-- The digits of a number from a place on. -/
def number (bias place n : Nat) : List Char :=
  let t := threshold place bias
  if n < t then [digit n]
  else digit (t + (n - t) % (36 - t)) :: number bias (place + 36) ((n - t) / (36 - t))
termination_by n
decreasing_by
  have low := threshold_pos place bias
  have high := threshold_le place bias
  exact Nat.lt_of_le_of_lt (Nat.div_le_self ..) (by omega)

/-- How far the writing of a text has come. -/
structure Progress where
  /-- The digits so far. -/
  written : List Char
  /-- The possible insertions since the last one. -/
  delta : Nat
  /-- The bias of the next number. -/
  bias : Nat
  /-- How many characters have been dealt with. -/
  length : Nat

/-- Pass one character of the text while the characters `v` are inserted. -/
def Progress.pass (basic v : Nat) (p : Progress) (c : Char) : Progress :=
  if c.toNat < v then { p with delta := p.delta + 1 }
  else if c.toNat = v then
    { written := p.written ++ number p.bias 36 p.delta
      delta := 0
      bias := Punycode.bias (p.length == basic) p.delta (p.length + 1)
      length := p.length + 1 }
  else p

/-- Insert the characters of each value in turn; `next` is the least one possible. -/
def Progress.insertAll (text : List Char) (basic : Nat) :
    (values : List Nat) → (next : Nat) → Progress → Progress
  | [], _, p => p
  | v :: values, next, p =>
    let p := { p with delta := p.delta + (v - next) * (p.length + 1) }
    let p := text.foldl (Progress.pass basic v) p
    insertAll text basic values (v + 1) { p with delta := p.delta + 1 }

/-- The values in a list, each once and in ascending order. -/
def ascending (values : List Nat) : List Nat :=
  (values.mergeSort).eraseDups

/-- The Punycode of a text. -/
def encode (text : List Char) : List Char :=
  let basic := text.filter fun c => c.toNat < 128
  let values := ascending ((text.map Char.toNat).filter fun v => 128 ≤ v)
  let p := Progress.insertAll text basic.length values 128 ⟨[], 0, 72, basic.length⟩
  if basic.isEmpty then p.written else basic ++ '-' :: p.written

/-! ### Reading -/

/-- Read a number, added to `sofar`, and what follows it; more than 32 bits are refused. -/
def number? (bias : Nat) : (place weight sofar : Nat) → (code : List Char) →
    Option (Nat × { rest : List Char // rest.length < code.length })
  | _, _, _, [] => none
  | place, weight, sofar, c :: rest =>
    match value? c with
    | none => none
    | some v =>
      let sofar := sofar + v * weight
      let t := threshold place bias
      if UInt32.size ≤ sofar then none
      else if v < t then some (sofar, ⟨rest, Nat.lt_succ_self _⟩)
      else if UInt32.size ≤ weight * (36 - t) then none
      else (number? bias (place + 36) (weight * (36 - t)) sofar rest).map
        fun (n, tail) => (n, ⟨tail.val, Nat.lt_succ_of_lt tail.property⟩)

/-- Insert a character for every number of a code into a text; `position` is the least place
and `v` the least character that the next insertion can have. -/
def insertions? (bias v position : Nat) (text code : List Char) : Option (List Char) :=
  if code.isEmpty then some text
  else match number? bias 36 1 position code with
    | none => none
    | some (n, rest) =>
      let length := text.length + 1
      let v := v + n / length
      if v.isValidChar then
        insertions? (Punycode.bias (position == 0) (n - position) length) v (n % length + 1)
          (text.insertIdx (n % length) (Char.ofNat v)) rest.val
      else none
termination_by code.length
decreasing_by exact rest.property

/-- The text that a code stands for; the hyphen is missing if no ASCII character is in it. -/
def decode? (code : List Char) : Option (List Char) :=
  match Text.splitLast? '-' code with
  | none => insertions? 72 128 0 [] code
  | some ([], _) => none
  | some (basic, code) =>
    if basic.all fun c => c.toNat < 128 then insertions? 72 128 0 basic code else none

end CredentialGateway.Url.Domain.Punycode
