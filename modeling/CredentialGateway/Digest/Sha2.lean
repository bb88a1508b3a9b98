/-
The SHA-2 family.

All members share one scheme: the message is padded to whole blocks, each block is
stretched to one word per round, and the rounds stir eight words, to which the
eight words of before are added at the end.  Members differ in the width of a word,
in the number of rounds, in the rotations and in the eight words they start with.

Words are natural numbers below `2 ^ bits`.
-/

namespace CredentialGateway.Sha2

/-- A member of the family. -/
structure Variant where
  /-- The width of a word in bits. -/
  bits : Nat
  /-- The two rotations and the shift that mix the word fifteen places back. -/
  early : Nat × Nat × Nat
  /-- The two rotations and the shift that mix the word two places back. -/
  late : Nat × Nat × Nat
  /-- The three rotations that mix the first word of the state. -/
  front : Nat × Nat × Nat
  /-- The three rotations that mix the fifth word of the state. -/
  back : Nat × Nat × Nat
  /-- One word for each round. -/
  constants : List Nat
  /-- The eight words at the start. -/
  initial : List Nat
  /-- The number of octets in a digest. -/
  width : Nat

/-- The first 64 bits behind the point of the cube roots of the first eighty primes. -/
def cubeRoots : List Nat :=
  [0x428a2f98d728ae22, 0x7137449123ef65cd, 0xb5c0fbcfec4d3b2f, 0xe9b5dba58189dbbc,
   0x3956c25bf348b538, 0x59f111f1b605d019, 0x923f82a4af194f9b, 0xab1c5ed5da6d8118,
   0xd807aa98a3030242, 0x12835b0145706fbe, 0x243185be4ee4b28c, 0x550c7dc3d5ffb4e2,
   0x72be5d74f27b896f, 0x80deb1fe3b1696b1, 0x9bdc06a725c71235, 0xc19bf174cf692694,
   0xe49b69c19ef14ad2, 0xefbe4786384f25e3, 0x0fc19dc68b8cd5b5, 0x240ca1cc77ac9c65,
   0x2de92c6f592b0275, 0x4a7484aa6ea6e483, 0x5cb0a9dcbd41fbd4, 0x76f988da831153b5,
   0x983e5152ee66dfab, 0xa831c66d2db43210, 0xb00327c898fb213f, 0xbf597fc7beef0ee4,
   0xc6e00bf33da88fc2, 0xd5a79147930aa725, 0x06ca6351e003826f, 0x142929670a0e6e70,
   0x27b70a8546d22ffc, 0x2e1b21385c26c926, 0x4d2c6dfc5ac42aed, 0x53380d139d95b3df,
   0x650a73548baf63de, 0x766a0abb3c77b2a8, 0x81c2c92e47edaee6, 0x92722c851482353b,
   0xa2bfe8a14cf10364, 0xa81a664bbc423001, 0xc24b8b70d0f89791, 0xc76c51a30654be30,
   0xd192e819d6ef5218, 0xd69906245565a910, 0xf40e35855771202a, 0x106aa07032bbd1b8,
   0x19a4c116b8d2d0c8, 0x1e376c085141ab53, 0x2748774cdf8eeb99, 0x34b0bcb5e19b48a8,
   0x391c0cb3c5c95a63, 0x4ed8aa4ae3418acb, 0x5b9cca4f7763e373, 0x682e6ff3d6b2b8a3,
   0x748f82ee5defb2fc, 0x78a5636f43172f60, 0x84c87814a1f0ab72, 0x8cc702081a6439ec,
   0x90befffa23631e28, 0xa4506cebde82bde9, 0xbef9a3f7b2c67915, 0xc67178f2e372532b,
   0xca273eceea26619c, 0xd186b8c721c0c207, 0xeada7dd6cde0eb1e, 0xf57d4f7fee6ed178,
   0x06f067aa72176fba, 0x0a637dc5a2c898a6, 0x113f9804bef90dae, 0x1b710b35131c471b,
   0x28db77f523047d84, 0x32caab7b40c72493, 0x3c9ebe0a15c9bebc, 0x431d67c49c100d4c,
   0x4cc5d4becb3e42b6, 0x597f299cfc657e2a, 0x5fcb6fab3ad6faec, 0x6c44198c4a475817]

/-- The first 64 bits behind the point of the square roots of the first eight primes. -/
def squareRoots : List Nat :=
  [0x6a09e667f3bcc908, 0xbb67ae8584caa73b, 0x3c6ef372fe94f82b, 0xa54ff53a5f1d36f1,
   0x510e527fade682d1, 0x9b05688c2b3e6c1f, 0x1f83d9abfb41bd6b, 0x5be0cd19137e2179]

/-- The first 64 bits behind the point of the square roots of the next eight primes. -/
def nextSquareRoots : List Nat :=
  [0xcbbb9d5dc1059ed8, 0x629a292a367cd507, 0x9159015a3070dd17, 0x152fecd8f70e5939,
   0x67332667ffc00b31, 0x8eb44a8768581511, 0xdb0c2e0d64f98fa7, 0x47b5481dbefa4fa4]

/-- SHA-256. -/
def sha256 : Variant where
  bits := 32
  early := (7, 18, 3)
  late := (17, 19, 10)
  front := (2, 13, 22)
  back := (6, 11, 25)
  constants := (cubeRoots.take 64).map (· >>> 32)
  initial := squareRoots.map (· >>> 32)
  width := 32

/-- SHA-512. -/
def sha512 : Variant where
  bits := 64
  early := (1, 8, 7)
  late := (19, 61, 6)
  front := (28, 34, 39)
  back := (14, 18, 41)
  constants := cubeRoots
  initial := squareRoots
  width := 64

/-- SHA-384: SHA-512 from another start, cut to three quarters. -/
def sha384 : Variant :=
  { sha512 with initial := nextSquareRoots, width := 48 }

namespace Variant

/-- The number of octets in a word. -/
def wordOctets (v : Variant) : Nat := v.bits / 8

/-- The number of octets in a block of sixteen words. -/
def blockOctets (v : Variant) : Nat := 16 * v.wordOctets

/-- Addition of words. -/
def add (v : Variant) (a b : Nat) : Nat := (a + b) % Nat.pow 2 v.bits

/-- Rotation of a word to the right. -/
def rotate (v : Variant) (a n : Nat) : Nat :=
  (a >>> n ||| a <<< (v.bits - n)) % Nat.pow 2 v.bits

/-- Two rotations and a shift of a word, combined. -/
def stretch (v : Variant) (r : Nat × Nat × Nat) (a : Nat) : Nat :=
  v.rotate a r.1 ^^^ v.rotate a r.2.1 ^^^ (a >>> r.2.2)

/-- Three rotations of a word, combined. -/
def stir (v : Variant) (r : Nat × Nat × Nat) (a : Nat) : Nat :=
  v.rotate a r.1 ^^^ v.rotate a r.2.1 ^^^ v.rotate a r.2.2

/-- Big-endian octets of a number. -/
def octetsOf : (count : Nat) → Nat → List UInt8
  | 0, _ => []
  | count + 1, n => UInt8.ofNat (n / Nat.pow 256 count % 256) :: octetsOf count n

/-- The number that big-endian octets write. -/
def natOf (bytes : List UInt8) : Nat :=
  bytes.foldl (fun n b => n * 256 + b.toNat) 0

/-- The message, a single bit, zeros, and the length of the message in bits: whole blocks. -/
def pad (v : Variant) (message : List UInt8) : List UInt8 :=
  let tail := 1 + 2 * v.wordOctets
  let zeros := (v.blockOctets - (message.length + tail) % v.blockOctets) % v.blockOctets
  message ++ 0x80 :: List.replicate zeros 0 ++
    octetsOf (2 * v.wordOctets) (8 * message.length)

/-- Cut a list into pieces of `size`; `count` is at least the number of pieces. -/
def chunks {α : Type} (size : Nat) : (count : Nat) → List α → List (List α)
  | 0, _ => []
  | _, [] => []
  | count + 1, xs => xs.take size :: chunks size count (xs.drop size)

/-- The next word behind sixteen or more words, which are given latest first. -/
def nextWord (v : Variant) (words : List Nat) : Nat :=
  v.add (v.add (v.stretch v.late (words.getD 1 0)) (words.getD 6 0))
    (v.add (v.stretch v.early (words.getD 14 0)) (words.getD 15 0))

/-- Add `count` words behind those given latest first. -/
def stretchBlock (v : Variant) : (count : Nat) → List Nat → List Nat
  | 0, words => words
  | count + 1, words => v.stretchBlock count (v.nextWord words :: words)

/-- One round: a constant and a word of the block are stirred into the state. -/
def round (v : Variant) (state : List Nat) (input : Nat × Nat) : List Nat :=
  match state with
  | [a, b, c, d, e, f, g, h] =>
    let choice := (e &&& f) ^^^ ((Nat.pow 2 v.bits - 1 - e) &&& g)
    let majority := (a &&& b) ^^^ (a &&& c) ^^^ (b &&& c)
    let t := v.add (v.add h (v.stir v.back e)) (v.add choice (v.add input.1 input.2))
    [v.add t (v.add (v.stir v.front a) majority), a, b, c, v.add d t, e, f, g]
  | other => other

/-- Stir a block into the state. -/
def compress (v : Variant) (state : List Nat) (block : List UInt8) : List Nat :=
  let words := (chunks v.wordOctets 16 block).map natOf
  let stretched := (v.stretchBlock (v.constants.length - 16) words.reverse).reverse
  List.zipWith v.add state ((v.constants.zip stretched).foldl v.round state)

/-- The digest of a message. -/
def digest (v : Variant) (message : List UInt8) : List UInt8 :=
  let padded := v.pad message
  let state := (chunks v.blockOctets padded.length padded).foldl v.compress v.initial
  (state.flatMap (octetsOf v.wordOctets)).take v.width

end Variant

end CredentialGateway.Sha2
