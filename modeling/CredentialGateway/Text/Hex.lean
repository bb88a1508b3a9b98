/-
Octets as pairs of hexadecimal digits.
-/

namespace CredentialGateway.Hex

/-- The lower-case digit of a value below sixteen. -/
def digit (n : Nat) : Char :=
  if n < 10 then Char.ofNat (48 + n) else Char.ofNat (87 + n)

/-- The upper-case digit of a value below sixteen. -/
def upperDigit (n : Nat) : Char :=
  if n < 10 then Char.ofNat (48 + n) else Char.ofNat (55 + n)

/-- The value of a digit in either case. -/
def value? (c : Char) : Option Nat :=
  if '0' ≤ c ∧ c ≤ '9' then some (c.toNat - 48)
  else if 'a' ≤ c ∧ c ≤ 'f' then some (c.toNat - 87)
  else if 'A' ≤ c ∧ c ≤ 'F' then some (c.toNat - 55)
  else none

/-- The value of the digit that an octet writes in ASCII. -/
def octetValue? (b : UInt8) : Option Nat :=
  value? (Char.ofNat b.toNat)

/-- Two lower-case digits for each octet. -/
def encode (bytes : List UInt8) : List Char :=
  bytes.flatMap fun b => [digit (b.toNat / 16), digit (b.toNat % 16)]

/-- Two lower-case digits for each octet, as a string. -/
def encodeString (bytes : List UInt8) : String :=
  String.ofList (encode bytes)

/-- The octets that pairs of digits write. -/
def decode? : List Char → Option (List UInt8)
  | [] => some []
  | [_] => none
  | h :: l :: rest => do
    let high ← value? h
    let low ← value? l
    let bytes ← decode? rest
    return UInt8.ofNat (high * 16 + low) :: bytes

/-- The digits of a number without leading zeros, `0` for zero. -/
def digits (n : Nat) : List Char :=
  Nat.toDigits 16 n

end CredentialGateway.Hex
