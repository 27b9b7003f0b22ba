import ColumnChain.Text.Encoding

/-!
# Digests

The SHA-256 digest of some bytes, in hexadecimal. The message is padded to blocks of
sixty-four bytes; every block is expanded to sixty-four words, and each of these words
takes part in one round of mixing the eight words of the state.
-/

namespace ColumnChain.Digest

/-- The words added in the rounds: the fractions of the cube roots of the first primes. -/
def roundWords : List UInt32 :=
  [
    0x428a2f98, 0x71374491, 0xb5c0fbcf, 0xe9b5dba5, 0x3956c25b, 0x59f111f1,
    0x923f82a4, 0xab1c5ed5, 0xd807aa98, 0x12835b01, 0x243185be, 0x550c7dc3,
    0x72be5d74, 0x80deb1fe, 0x9bdc06a7, 0xc19bf174, 0xe49b69c1, 0xefbe4786,
    0x0fc19dc6, 0x240ca1cc, 0x2de92c6f, 0x4a7484aa, 0x5cb0a9dc, 0x76f988da,
    0x983e5152, 0xa831c66d, 0xb00327c8, 0xbf597fc7, 0xc6e00bf3, 0xd5a79147,
    0x06ca6351, 0x14292967, 0x27b70a85, 0x2e1b2138, 0x4d2c6dfc, 0x53380d13,
    0x650a7354, 0x766a0abb, 0x81c2c92e, 0x92722c85, 0xa2bfe8a1, 0xa81a664b,
    0xc24b8b70, 0xc76c51a3, 0xd192e819, 0xd6990624, 0xf40e3585, 0x106aa070,
    0x19a4c116, 0x1e376c08, 0x2748774c, 0x34b0bcb5, 0x391c0cb3, 0x4ed8aa4a,
    0x5b9cca4f, 0x682e6ff3, 0x748f82ee, 0x78a5636f, 0x84c87814, 0x8cc70208,
    0x90befffa, 0xa4506ceb, 0xbef9a3f7, 0xc67178f2 ]

/-- The words of the state. -/
structure State where
  a : UInt32
  b : UInt32
  c : UInt32
  d : UInt32
  e : UInt32
  f : UInt32
  g : UInt32
  h : UInt32

/-- The first state: the fractions of the square roots of the first primes. -/
def start : State where
  a := 0x6a09e667
  b := 0xbb67ae85
  c := 0x3c6ef372
  d := 0xa54ff53a
  e := 0x510e527f
  f := 0x9b05688c
  g := 0x1f83d9ab
  h := 0x5be0cd19

/-- Turn a word to the right by less than its width. -/
def turn (word : UInt32) (places : UInt32) : UInt32 :=
  (word >>> places) ||| (word <<< (32 - places))

/-- One round, with its word of the message and its constant. -/
def State.round (s : State) (word constant : UInt32) : State :=
  let mixed := turn s.e 6 ^^^ turn s.e 11 ^^^ turn s.e 25
  let chosen := (s.e &&& s.f) ^^^ ((~~~ s.e) &&& s.g)
  let first := s.h + mixed + chosen + constant + word
  let spread := turn s.a 2 ^^^ turn s.a 13 ^^^ turn s.a 22
  let majority := (s.a &&& s.b) ^^^ (s.a &&& s.c) ^^^ (s.b &&& s.c)
  { a := first + spread + majority, b := s.a, c := s.b, d := s.c
    e := s.d + first, f := s.e, g := s.f, h := s.g }

/-- Words added component by component. -/
def State.add (s t : State) : State :=
  { a := s.a + t.a, b := s.b + t.b, c := s.c + t.c, d := s.d + t.d
    e := s.e + t.e, f := s.f + t.f, g := s.g + t.g, h := s.h + t.h }

/-- The words of the state in order. -/
def State.words (s : State) : List UInt32 :=
  [s.a, s.b, s.c, s.d, s.e, s.f, s.g, s.h]

/-- The big-endian word of four bytes. -/
def wordOf (b₀ b₁ b₂ b₃ : UInt8) : UInt32 :=
  (b₀.toUInt32 <<< 24) ||| (b₁.toUInt32 <<< 16) ||| (b₂.toUInt32 <<< 8) ||| b₃.toUInt32

/-- Bytes as words, four at a time. -/
def wordsOf : Bytes → List UInt32
  | b₀ :: b₁ :: b₂ :: b₃ :: rest => wordOf b₀ b₁ b₂ b₃ :: wordsOf rest
  | _ => []

/-- The bytes of a number, the most significant first. -/
def bigEndian (width n : Nat) : Bytes :=
  (List.range width).map fun place => (n >>> (8 * (width - 1 - place))).toUInt8

/-- The message with a one bit, zeros up to a whole number of blocks, and its length in
bits. -/
def padded (message : Bytes) : Bytes :=
  let zeros := (119 - message.length % 64) % 64
  message ++ 0x80 :: List.replicate zeros 0 ++ bigEndian 8 (8 * message.length)

/-- The next word of the schedule, from the sixteen words before it, the latest first. -/
def nextWord (window : List UInt32) : UInt32 :=
  let word (place : Nat) := window.getD place 0
  let early := word 14
  let late := word 1
  let low := turn early 7 ^^^ turn early 18 ^^^ (early >>> 3)
  let high := turn late 17 ^^^ turn late 19 ^^^ (late >>> 10)
  word 15 + low + word 6 + high

/-- Take the rounds of a block. `window` holds the last sixteen words of the schedule,
the latest first, once the words of the block are used up. -/
def rounds : List UInt32 → List UInt32 → List UInt32 → State → State
  | [], _, _, s => s
  | constant :: constants, word :: block, window, s =>
      rounds constants block (word :: window) (s.round word constant)
  | constant :: constants, [], window, s =>
      let word := nextWord window
      rounds constants [] (word :: window.take 15) (s.round word constant)

/-- Take in a block of sixteen words. -/
def absorb (s : State) (block : List UInt32) : State :=
  s.add (rounds roundWords block [] s)

/-- Take in all blocks. -/
def absorbAll (s : State) (words : List UInt32) : State :=
  if words.isEmpty then s else absorbAll (absorb s (words.take 16)) (words.drop 16)
termination_by words.length
decreasing_by
  rename_i filled
  cases words with
  | nil => simp at filled
  | cons word rest => simp only [List.length_drop, List.length_cons]; omega

/-- The digest as hexadecimal digits. -/
def hexadecimal (message : Bytes) : String :=
  let words := (absorbAll start (wordsOf (padded message))).words
  String.ofList <| words.flatMap fun word =>
    let digits := Nat.toDigits 16 word.toNat
    List.replicate (8 - digits.length) '0' ++ digits

end ColumnChain.Digest
