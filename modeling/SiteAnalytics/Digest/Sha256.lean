/-!
# SHA-256

The digest of a message. The message is filled up to whole blocks of 64 bytes: a one bit, zero bits,
and the length of the message in bits as a 64-bit word. Every block is expanded to 64 words, each of
which drives one round on a state of eight words; what the rounds give is added to the state. Words
have 32 bits, are read with the most significant byte first and are added modulo `2 ^ 32`.
-/

namespace SiteAnalytics.Sha256

/-! ### Words -/

/-- The bits of `x` moved round by `n` to the right. -/
def rotate (x : UInt32) (n : UInt32) : UInt32 := (x >>> n) ||| (x <<< (32 - n))

/-- The word of four bytes. -/
def word (a b c d : UInt8) : UInt32 :=
  (a.toUInt32 <<< 24) ||| (b.toUInt32 <<< 16) ||| (c.toUInt32 <<< 8) ||| d.toUInt32

/-- The words of bytes. Bytes that make no whole word are left out. -/
def words : List UInt8 → List UInt32
  | a :: b :: c :: d :: rest => word a b c d :: words rest
  | _ => []

/-- The bytes of a word. -/
def wordBytes (x : UInt32) : List UInt8 :=
  [(x >>> 24).toUInt8, (x >>> 16).toUInt8, (x >>> 8).toUInt8, x.toUInt8]

/-! ### Filling up -/

/-- The 64-bit word `n` as bytes. -/
def lengthBytes (n : Nat) : List UInt8 :=
  wordBytes (UInt32.ofNat (n / 4294967296)) ++ wordBytes (UInt32.ofNat n)

/-- The message in whole blocks. -/
def fill (message : List UInt8) : List UInt8 :=
  let zeros := (119 - message.length % 64) % 64
  message ++ 0x80 :: List.replicate zeros 0 ++ lengthBytes (8 * message.length)

/-! ### Rounds -/

/-- The constants of the rounds: the first 32 bits of the fractional parts of the cube roots of the
first 64 primes. -/
def roundConstants : List UInt32 :=
  [0x428a2f98, 0x71374491, 0xb5c0fbcf, 0xe9b5dba5, 0x3956c25b, 0x59f111f1, 0x923f82a4, 0xab1c5ed5,
    0xd807aa98, 0x12835b01, 0x243185be, 0x550c7dc3, 0x72be5d74, 0x80deb1fe, 0x9bdc06a7, 0xc19bf174,
    0xe49b69c1, 0xefbe4786, 0x0fc19dc6, 0x240ca1cc, 0x2de92c6f, 0x4a7484aa, 0x5cb0a9dc, 0x76f988da,
    0x983e5152, 0xa831c66d, 0xb00327c8, 0xbf597fc7, 0xc6e00bf3, 0xd5a79147, 0x06ca6351, 0x14292967,
    0x27b70a85, 0x2e1b2138, 0x4d2c6dfc, 0x53380d13, 0x650a7354, 0x766a0abb, 0x81c2c92e, 0x92722c85,
    0xa2bfe8a1, 0xa81a664b, 0xc24b8b70, 0xc76c51a3, 0xd192e819, 0xd6990624, 0xf40e3585, 0x106aa070,
    0x19a4c116, 0x1e376c08, 0x2748774c, 0x34b0bcb5, 0x391c0cb3, 0x4ed8aa4a, 0x5b9cca4f, 0x682e6ff3,
    0x748f82ee, 0x78a5636f, 0x84c87814, 0x8cc70208, 0x90befffa, 0xa4506ceb, 0xbef9a3f7, 0xc67178f2]

/-- The eight words that the rounds work on. -/
structure State where
  a : UInt32
  b : UInt32
  c : UInt32
  d : UInt32
  e : UInt32
  f : UInt32
  g : UInt32
  h : UInt32

namespace State

/-- The state before the first block: the first 32 bits of the fractional parts of the square roots
of the first eight primes. -/
def start : State :=
  ⟨0x6a09e667, 0xbb67ae85, 0x3c6ef372, 0xa54ff53a, 0x510e527f, 0x9b05688c, 0x1f83d9ab, 0x5be0cd19⟩

/-- The words of a state. -/
def toList (s : State) : List UInt32 := [s.a, s.b, s.c, s.d, s.e, s.f, s.g, s.h]

/-- The sums of the words of two states. -/
def add (s t : State) : State :=
  ⟨s.a + t.a, s.b + t.b, s.c + t.c, s.d + t.d, s.e + t.e, s.f + t.f, s.g + t.g, s.h + t.h⟩

/-- One round with a constant and a word of the block. -/
def round (s : State) (constant word : UInt32) : State :=
  let mixE := rotate s.e 6 ^^^ rotate s.e 11 ^^^ rotate s.e 25
  let choice := (s.e &&& s.f) ^^^ (~~~s.e &&& s.g)
  let first := s.h + mixE + choice + constant + word
  let mixA := rotate s.a 2 ^^^ rotate s.a 13 ^^^ rotate s.a 22
  let majority := (s.a &&& s.b) ^^^ (s.a &&& s.c) ^^^ (s.b &&& s.c)
  ⟨first + mixA + majority, s.a, s.b, s.c, s.d + first, s.e, s.f, s.g⟩

end State

/-! ### Blocks -/

/-- The word after sixteen others, which are given from the last to the first. -/
def nextWord (back : List UInt32) : UInt32 :=
  let before (n : Nat) : UInt32 := back.getD (n - 1) 0
  let x := before 15
  let y := before 2
  before 16 + (rotate x 7 ^^^ rotate x 18 ^^^ (x >>> 3)) + before 7 +
    (rotate y 17 ^^^ rotate y 19 ^^^ (y >>> 10))

/-- Puts `count` more words in front of words that are given from the last to the first. -/
def expand (back : List UInt32) : Nat → List UInt32
  | 0 => back
  | count + 1 => expand (nextWord back :: back) count

/-- Works a block of sixteen words into the state. -/
def addBlock (s : State) (block : List UInt32) : State :=
  let schedule := (expand block.reverse 48).reverse
  s.add ((roundConstants.zip schedule).foldl (fun t e => t.round e.1 e.2) s)

/-- Works words into the state, sixteen at a time. Words that make no whole block are left out. -/
def addBlocks (s : State) (ws : List UInt32) : State :=
  if ws.length < 16 then s else addBlocks (addBlock s (ws.take 16)) (ws.drop 16)
termination_by ws.length
decreasing_by simp only [List.length_drop]; omega

/-- The 32 bytes of the digest of a message. -/
def digest (message : List UInt8) : List UInt8 :=
  (addBlocks State.start (words (fill message))).toList.flatMap wordBytes

end SiteAnalytics.Sha256
