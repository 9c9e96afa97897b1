import MailTriage.Text.Digits

/-! # SHA-256

The secure hash with 256 bits, over lists: the message is padded to whole blocks of 64 bytes
(`padded`), each block is extended to 64 words (`schedule`), and the words are mixed one after
another into a state of eight words (`compress`).  `hexDigest` writes the last state with
hexadecimal digits.
-/
namespace MailTriage.Sha256

/-- The word turned to the right by a number of bits. -/
def rotateRight (w n : UInt32) : UInt32 := (w >>> n) ||| (w <<< (32 - n))

/-- The first 32 bits of the fractional parts of the cube roots of the first 64 primes. -/
def roundWords : List UInt32 :=
  [0x428a2f98, 0x71374491, 0xb5c0fbcf, 0xe9b5dba5, 0x3956c25b, 0x59f111f1, 0x923f82a4, 0xab1c5ed5,
    0xd807aa98, 0x12835b01, 0x243185be, 0x550c7dc3, 0x72be5d74, 0x80deb1fe, 0x9bdc06a7, 0xc19bf174,
    0xe49b69c1, 0xefbe4786, 0x0fc19dc6, 0x240ca1cc, 0x2de92c6f, 0x4a7484aa, 0x5cb0a9dc, 0x76f988da,
    0x983e5152, 0xa831c66d, 0xb00327c8, 0xbf597fc7, 0xc6e00bf3, 0xd5a79147, 0x06ca6351, 0x14292967,
    0x27b70a85, 0x2e1b2138, 0x4d2c6dfc, 0x53380d13, 0x650a7354, 0x766a0abb, 0x81c2c92e, 0x92722c85,
    0xa2bfe8a1, 0xa81a664b, 0xc24b8b70, 0xc76c51a3, 0xd192e819, 0xd6990624, 0xf40e3585, 0x106aa070,
    0x19a4c116, 0x1e376c08, 0x2748774c, 0x34b0bcb5, 0x391c0cb3, 0x4ed8aa4a, 0x5b9cca4f, 0x682e6ff3,
    0x748f82ee, 0x78a5636f, 0x84c87814, 0x8cc70208, 0x90befffa, 0xa4506ceb, 0xbef9a3f7, 0xc67178f2]

/-- The eight words that mixing works on. -/
structure State where
  a : UInt32
  b : UInt32
  c : UInt32
  d : UInt32
  e : UInt32
  f : UInt32
  g : UInt32
  h : UInt32
deriving DecidableEq, Repr

namespace State

/-- The first 32 bits of the fractional parts of the square roots of the first eight primes. -/
def start : State where
  a := 0x6a09e667
  b := 0xbb67ae85
  c := 0x3c6ef372
  d := 0xa54ff53a
  e := 0x510e527f
  f := 0x9b05688c
  g := 0x1f83d9ab
  h := 0x5be0cd19

/-- The words in order. -/
def words (s : State) : List UInt32 := [s.a, s.b, s.c, s.d, s.e, s.f, s.g, s.h]

/-- The sums of the words of two states. -/
def add (s t : State) : State where
  a := s.a + t.a
  b := s.b + t.b
  c := s.c + t.c
  d := s.d + t.d
  e := s.e + t.e
  f := s.f + t.f
  g := s.g + t.g
  h := s.h + t.h

/-- The state after mixing in a word, given the sum of that word and its round word. -/
def mix (s : State) (word : UInt32) : State :=
  let choice := (s.e &&& s.f) ^^^ (~~~s.e &&& s.g)
  let majority := (s.a &&& s.b) ^^^ (s.a &&& s.c) ^^^ (s.b &&& s.c)
  let turnedE := rotateRight s.e 6 ^^^ rotateRight s.e 11 ^^^ rotateRight s.e 25
  let turnedA := rotateRight s.a 2 ^^^ rotateRight s.a 13 ^^^ rotateRight s.a 22
  let first := s.h + turnedE + choice + word
  { a := first + turnedA + majority, b := s.a, c := s.b, d := s.c, e := s.d + first
    f := s.e, g := s.f, h := s.g }

end State

/-- The word that follows some words, of which the last one comes first. -/
def nextWord (backward : List UInt32) : UInt32 :=
  let near := backward.getD 1 0
  let far := backward.getD 14 0
  (rotateRight near 17 ^^^ rotateRight near 19 ^^^ (near >>> 10)) + backward.getD 6 0
    + (rotateRight far 7 ^^^ rotateRight far 18 ^^^ (far >>> 3)) + backward.getD 15 0

/-- Some words, the last one first, followed by a number of further ones. -/
def extend : Nat → List UInt32 → List UInt32
  | 0, backward => backward
  | n + 1, backward => extend n (nextWord backward :: backward)

/-- The 64 words of a block of sixteen. -/
def schedule (block : List UInt32) : List UInt32 := (extend 48 block.reverse).reverse

/-- The state after a block. -/
def compress (s : State) (block : List UInt32) : State :=
  s.add ((List.zipWith (· + ·) roundWords (schedule block)).foldl State.mix s)

/-- The bytes of a number, as many as wanted, the highest first. -/
def bigEndian : Nat → Nat → List UInt8
  | 0, _ => []
  | places + 1, n => bigEndian places (n / 256) ++ [UInt8.ofNat (n % 256)]

/-- The message with a one bit, as many zero bits as fill the last block, and its length in bits. -/
def padded (message : List UInt8) : List UInt8 :=
  let zeros := (119 - message.length % 64) % 64
  message ++ 0x80 :: List.replicate zeros 0 ++ bigEndian 8 (8 * message.length)

/-- Bytes taken four at a time as words, the highest byte first. -/
def wordsOf : List UInt8 → List UInt32
  | a :: b :: c :: d :: rest =>
    (a.toUInt32 <<< 24 ||| b.toUInt32 <<< 16 ||| c.toUInt32 <<< 8 ||| d.toUInt32) :: wordsOf rest
  | _ => []

/-- The words sixteen at a time, for at most so many blocks. -/
def blocks : Nat → List UInt32 → List (List UInt32)
  | 0, _ => []
  | n + 1, words => words.take 16 :: blocks n (words.drop 16)

/-- The last state of a message. -/
def digest (message : List UInt8) : State :=
  let words := wordsOf (padded message)
  (blocks (words.length / 16) words).foldl compress .start

/-- The hash of a text, of its encoding in UTF-8, with 64 hexadecimal digits. -/
def hexDigest (text : String) : List Char :=
  (digest text.toUTF8.data.toList).words.flatMap fun w => Text.hexDigits 8 w.toNat

end MailTriage.Sha256
