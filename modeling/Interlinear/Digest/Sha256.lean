import Interlinear.Digest.Basic

set_option autoImplicit false

/-! # The SHA-256 digest

A message is padded to blocks of 64 bytes (`blocks`), each block is spread over 64 words
(`schedule`), and the words of all blocks are mixed into a state of eight words one after another
(`compress`). The state after the last block, written out in bytes, is the digest (`digest`). -/

namespace Interlinear.Digest.Sha256

/-! ## Words and bytes -/

/-- The word whose bytes are given, the most significant one first. -/
def wordOf (a b c d : UInt8) : UInt32 :=
  a.toUInt32 <<< 24 ||| b.toUInt32 <<< 16 ||| c.toUInt32 <<< 8 ||| d.toUInt32

/-- The bytes of a word, the most significant one first. -/
def wordBytes (w : UInt32) : List UInt8 :=
  [(w >>> 24).toUInt8, (w >>> 16).toUInt8, (w >>> 8).toUInt8, w.toUInt8]

/-- The words that a list of bytes makes up, four bytes each. -/
def wordsOf : List UInt8 → List UInt32
  | a :: b :: c :: d :: rest => wordOf a b c d :: wordsOf rest
  | _ => []

/-- The bits of a word turned right by `n` places. -/
def turn (w n : UInt32) : UInt32 := w >>> n ||| w <<< (32 - n)

/-! ## Padding -/

/-- The last `count` bytes of a number, the most significant one first. -/
def bigEndian : Nat → Nat → List UInt8
  | 0, _ => []
  | count + 1, n => bigEndian count (n / 256) ++ [UInt8.ofNat n]

/-- A message filled up to whole blocks: a set bit, clear bits, and the length in bits. -/
def pad (message : List UInt8) : List UInt8 :=
  let fill := (119 - message.length % 64) % 64
  message ++ [0x80] ++ List.replicate fill 0 ++ bigEndian 8 (8 * message.length)

/-- Cuts a list into pieces of `size` elements, at most `count` of them. -/
def pieces {α : Type} (size : Nat) : Nat → List α → List (List α)
  | 0, _ => []
  | count + 1, xs => xs.take size :: pieces size count (xs.drop size)

/-- The blocks of a message, sixteen words each. -/
def blocks (message : List UInt8) : List (List UInt32) :=
  let words := wordsOf (pad message)
  pieces 16 (words.length / 16) words

/-! ## Mixing -/

/-- The constants that are mixed in, one in each round. -/
def roundConstants : List UInt32 := [
  0x428a2f98, 0x71374491, 0xb5c0fbcf, 0xe9b5dba5, 0x3956c25b, 0x59f111f1, 0x923f82a4, 0xab1c5ed5,
  0xd807aa98, 0x12835b01, 0x243185be, 0x550c7dc3, 0x72be5d74, 0x80deb1fe, 0x9bdc06a7, 0xc19bf174,
  0xe49b69c1, 0xefbe4786, 0x0fc19dc6, 0x240ca1cc, 0x2de92c6f, 0x4a7484aa, 0x5cb0a9dc, 0x76f988da,
  0x983e5152, 0xa831c66d, 0xb00327c8, 0xbf597fc7, 0xc6e00bf3, 0xd5a79147, 0x06ca6351, 0x14292967,
  0x27b70a85, 0x2e1b2138, 0x4d2c6dfc, 0x53380d13, 0x650a7354, 0x766a0abb, 0x81c2c92e, 0x92722c85,
  0xa2bfe8a1, 0xa81a664b, 0xc24b8b70, 0xc76c51a3, 0xd192e819, 0xd6990624, 0xf40e3585, 0x106aa070,
  0x19a4c116, 0x1e376c08, 0x2748774c, 0x34b0bcb5, 0x391c0cb3, 0x4ed8aa4a, 0x5b9cca4f, 0x682e6ff3,
  0x748f82ee, 0x78a5636f, 0x84c87814, 0x8cc70208, 0x90befffa, 0xa4506ceb, 0xbef9a3f7, 0xc67178f2]

/-- The next word of a schedule, from the words so far, the last one first. -/
def nextWord (words : List UInt32) : UInt32 :=
  let near := words.getD 1 0
  let far := words.getD 14 0
  let nearMix := turn near 17 ^^^ turn near 19 ^^^ (near >>> 10)
  let farMix := turn far 7 ^^^ turn far 18 ^^^ (far >>> 3)
  nearMix + words.getD 6 0 + farMix + words.getD 15 0

/-- Adds `count` words to the words so far, the last one first. -/
def extend : Nat → List UInt32 → List UInt32
  | 0, words => words
  | count + 1, words => extend count (nextWord words :: words)

/-- The words that are mixed in for a block, one in each round. -/
def schedule (block : List UInt32) : List UInt32 := (extend 48 block.reverse).reverse

/-- The state that words are mixed into. -/
structure State where
  a : UInt32
  b : UInt32
  c : UInt32
  d : UInt32
  e : UInt32
  f : UInt32
  g : UInt32
  h : UInt32

/-- The state before the first block. -/
def start : State :=
  ⟨0x6a09e667, 0xbb67ae85, 0x3c6ef372, 0xa54ff53a, 0x510e527f, 0x9b05688c, 0x1f83d9ab, 0x5be0cd19⟩

/-- Mixes one word of a schedule, and the constant of its round, into the state. -/
def round (s : State) (mixed : UInt32 × UInt32) : State :=
  let choice := (s.e &&& s.f) ^^^ (~~~s.e &&& s.g)
  let majority := (s.a &&& s.b) ^^^ (s.a &&& s.c) ^^^ (s.b &&& s.c)
  let low := s.h + (turn s.e 6 ^^^ turn s.e 11 ^^^ turn s.e 25) + choice + mixed.1 + mixed.2
  let high := (turn s.a 2 ^^^ turn s.a 13 ^^^ turn s.a 22) + majority
  ⟨low + high, s.a, s.b, s.c, s.d + low, s.e, s.f, s.g⟩

/-- Mixes a block into the state. -/
def compress (s : State) (block : List UInt32) : State :=
  let t := (roundConstants.zip (schedule block)).foldl round s
  ⟨s.a + t.a, s.b + t.b, s.c + t.c, s.d + t.d, s.e + t.e, s.f + t.f, s.g + t.g, s.h + t.h⟩

/-- The words of a state. -/
def State.words (s : State) : List UInt32 := [s.a, s.b, s.c, s.d, s.e, s.f, s.g, s.h]

/-- The digest of a message. -/
def digest (message : List UInt8) : Digest where
  bytes := ((blocks message).foldl compress start).words.flatMap wordBytes
  length_eq := by simp [State.words, wordBytes]

end Interlinear.Digest.Sha256
