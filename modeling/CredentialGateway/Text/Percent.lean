/-
Octets written as `%` and two hexadecimal digits.

What looks like an escape but lacks its digits is left as it is.
-/
import CredentialGateway.Text.Hex

namespace CredentialGateway.Percent

/-- An octet as an escape, with upper-case digits. -/
def escapeOctet (b : UInt8) : List Char :=
  ['%', Hex.upperDigit (b.toNat / 16), Hex.upperDigit (b.toNat % 16)]

/-- Undo `%XX` escapes; `skip` octets belong to the escape before them. -/
def unescapeFrom : (skip : Nat) → List UInt8 → List UInt8
  | _, [] => []
  | skip + 1, _ :: rest => unescapeFrom skip rest
  | 0, b :: rest =>
    if b = 0x25 then
      match rest with
      | h :: l :: _ =>
        match Hex.octetValue? h, Hex.octetValue? l with
        | some high, some low => UInt8.ofNat (high * 16 + low) :: unescapeFrom 2 rest
        | _, _ => b :: unescapeFrom 0 rest
      | _ => b :: unescapeFrom 0 rest
    else b :: unescapeFrom 0 rest

/-- Undo `%XX` escapes. -/
def unescape (bs : List UInt8) : List UInt8 :=
  unescapeFrom 0 bs

end CredentialGateway.Percent
