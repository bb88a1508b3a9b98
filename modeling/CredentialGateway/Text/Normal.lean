/-
The normal form of a text (Unicode normalization form C).

Every character is taken apart, the marks behind a letter are put in the order of
their classes, and what can be put together again is put together.
-/
import CredentialGateway.Text.Normal.Table

namespace CredentialGateway.Text

namespace Normal

/-- The combining class of a character; letters have class zero. -/
def combiningClass (c : Char) : Nat :=
  if c.toNat < 0x300 then 0 else Runs.valueAt classes c.toNat

/-! ### Hangul

A syllable is a leading consonant, a vowel and, perhaps, a trailing consonant. -/

/-- The parts of a Hangul syllable. -/
def syllable? (c : Char) : Option (List Char) :=
  if 0xAC00 ≤ c.toNat && c.toNat ≤ 0xD7A3 then
    let s := c.toNat - 0xAC00
    let lead := Char.ofNat (0x1100 + s / 588)
    let vowel := Char.ofNat (0x1161 + s % 588 / 28)
    if s % 28 = 0 then some [lead, vowel]
    else some [lead, vowel, Char.ofNat (0x11A7 + s % 28)]
  else none

/-- The Hangul syllable that a consonant and a vowel, or a syllable and a consonant, make. -/
def joined? (a b : Char) : Option Char :=
  if 0x1100 ≤ a.toNat && a.toNat ≤ 0x1112 && 0x1161 ≤ b.toNat && b.toNat ≤ 0x1175 then
    some (Char.ofNat (0xAC00 + ((a.toNat - 0x1100) * 21 + (b.toNat - 0x1161)) * 28))
  else if 0xAC00 ≤ a.toNat && a.toNat ≤ 0xD7A3 && (a.toNat - 0xAC00) % 28 == 0
      && 0x11A8 ≤ b.toNat && b.toNat ≤ 0x11C2 then
    some (Char.ofNat (a.toNat + (b.toNat - 0x11A7)))
  else none

/-! ### Taking apart and putting together -/

/-- The characters that a character directly stands for, itself if it is not one of those. -/
def parts (c : Char) : List Char :=
  if c.toNat < 0xC0 then [c]
  else ((Span.find? composites c <|> Span.find? variants c) <|> syllable? c).getD [c]

/-- A text taken apart; three rounds leave nothing that could be taken apart further. -/
def apart (text : List Char) : List Char :=
  ((text.flatMap parts).flatMap parts).flatMap parts

/-- Put a mark into a text behind all marks whose class is not above its own. -/
def insertMark (k : Nat) (c : Char) : List Char → List Char
  | [] => [c]
  | d :: text =>
    if k < combiningClass d then c :: d :: text else d :: insertMark k c text

/-- A text whose marks stand in the order of their classes, given the marks, in order,
behind the last letter so far. -/
def ordered : (marks : List Char) → List Char → List Char
  | marks, [] => marks
  | marks, c :: text =>
    if combiningClass c = 0 then marks ++ c :: ordered [] text
    else ordered (insertMark (combiningClass c) c marks) text

/-- The character that two characters make. -/
def composite? (a b : Char) : Option Char :=
  match joined? a b with
  | some c => some c
  | none => (composites.findSome? fun s => s.origin? [a.toNat, b.toNat]).map Char.ofNat

/-- Put together what follows a letter: `passed` are the marks that have stayed behind it,
the last one first, and each of them blocks the marks that are not above its class. -/
def together (letter : Char) : (passed : List Char) → List Char → List Char
  | passed, [] => letter :: passed.reverse
  | passed, c :: text =>
    let free := match passed with
      | [] => true
      | d :: _ => combiningClass d < combiningClass c
    match if free then composite? letter c else none with
    | some made => together made passed text
    | none =>
      if combiningClass c = 0 then letter :: passed.reverse ++ together c [] text
      else together letter (c :: passed) text

end Normal

/-- The normal form of a text. -/
def normal (text : List Char) : List Char :=
  match Normal.ordered [] (Normal.apart text) with
  | [] => []
  | c :: rest => Normal.together c [] rest

end CredentialGateway.Text
