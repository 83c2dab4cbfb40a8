import TestImpact.Text.Hex

/-!
# MD5

The digest of a text of bytes, as RFC 1321 defines it: the text is padded to whole
blocks of sixty-four bytes, and each block stirs the four words of the state in
sixty-four rounds. `Md5.hex` writes the sixteen bytes of the digest as thirty-two
hexadecimal digits.
-/

namespace TestImpact.Md5

/-- The four words that the blocks stir. -/
structure State where
  a : UInt32 := 0x67452301
  b : UInt32 := 0xefcdab89
  c : UInt32 := 0x98badcfe
  d : UInt32 := 0x10325476
  deriving DecidableEq, Repr

/-- The word added in each round: the fraction bits of a sine. -/
def sines : Array UInt32 := #[
  0xd76aa478, 0xe8c7b756, 0x242070db, 0xc1bdceee,
  0xf57c0faf, 0x4787c62a, 0xa8304613, 0xfd469501,
  0x698098d8, 0x8b44f7af, 0xffff5bb1, 0x895cd7be,
  0x6b901122, 0xfd987193, 0xa679438e, 0x49b40821,
  0xf61e2562, 0xc040b340, 0x265e5a51, 0xe9b6c7aa,
  0xd62f105d, 0x02441453, 0xd8a1e681, 0xe7d3fbc8,
  0x21e1cde6, 0xc33707d6, 0xf4d50d87, 0x455a14ed,
  0xa9e3e905, 0xfcefa3f8, 0x676f02d9, 0x8d2a4c8a,
  0xfffa3942, 0x8771f681, 0x6d9d6122, 0xfde5380c,
  0xa4beea44, 0x4bdecfa9, 0xf6bb4b60, 0xbebfbc70,
  0x289b7ec6, 0xeaa127fa, 0xd4ef3085, 0x04881d05,
  0xd9d4d039, 0xe6db99e5, 0x1fa27cf8, 0xc4ac5665,
  0xf4292244, 0x432aff97, 0xab9423a7, 0xfc93a039,
  0x655b59c3, 0x8f0ccc92, 0xffeff47d, 0x85845dd1,
  0x6fa87e4f, 0xfe2ce6e0, 0xa3014314, 0x4e0811a1,
  0xf7537e82, 0xbd3af235, 0x2ad7d2bb, 0xeb86d391]

/-- How far each round turns its word. -/
def turns : Array UInt32 := #[
  7, 12, 17, 22, 7, 12, 17, 22, 7, 12, 17, 22, 7, 12, 17, 22,
  5, 9, 14, 20, 5, 9, 14, 20, 5, 9, 14, 20, 5, 9, 14, 20,
  4, 11, 16, 23, 4, 11, 16, 23, 4, 11, 16, 23, 4, 11, 16, 23,
  6, 10, 15, 21, 6, 10, 15, 21, 6, 10, 15, 21, 6, 10, 15, 21]

/-- Turns a word to the left. -/
def rotate (word count : UInt32) : UInt32 :=
  (word <<< count) ||| (word >>> (32 - count))

/-- How a round mixes three words, and which word of the block it takes in. -/
def mix (round : Nat) (b c d : UInt32) : UInt32 × Nat :=
  if round < 16 then ((b &&& c) ||| (~~~b &&& d), round)
  else if round < 32 then ((d &&& b) ||| (~~~d &&& c), (5 * round + 1) % 16)
  else if round < 48 then (b ^^^ c ^^^ d, (3 * round + 5) % 16)
  else (c ^^^ (b ||| ~~~d), (7 * round) % 16)

/-- One round. -/
def step (block : Array UInt32) (s : State) (round : Nat) : State :=
  let (mixed, index) := mix round s.b s.c s.d
  let sum := s.a + mixed + sines.getD round 0 + block.getD index 0
  ⟨s.d, s.b + rotate sum (turns.getD round 0), s.b, s.c⟩

/-- Takes in one block. -/
def stir (s : State) (block : Array UInt32) : State :=
  let stirred := (List.range 64).foldl (step block) s
  ⟨s.a + stirred.a, s.b + stirred.b, s.c + stirred.c, s.d + stirred.d⟩

/-- The bytes of a number, the lowest first. -/
def lowestFirst (count n : Nat) : List UInt8 :=
  (List.range count).map fun i => UInt8.ofNat (n / Nat.pow 256 i)

/-- A text with a mark, zeros and its length in bits behind it. -/
def padded (text : List UInt8) : List UInt8 :=
  let zeros := (119 - text.length % 64) % 64
  text ++ 0x80 :: (List.replicate zeros 0 ++ lowestFirst 8 (8 * text.length))

/-- The words of some bytes. -/
def words : List UInt8 → List UInt32
  | a :: b :: c :: d :: rest =>
    (a.toUInt32 ||| (b.toUInt32 <<< 8) ||| (c.toUInt32 <<< 16) ||| (d.toUInt32 <<< 24)) ::
      words rest
  | _ => []

/-- The blocks of sixteen words. -/
def blocks (text : List UInt8) : List (Array UInt32) :=
  let all := words (padded text)
  (List.range (all.length / 16)).map fun i => ((all.drop (16 * i)).take 16).toArray

/-- The sixteen bytes of the digest. -/
def digest (text : List UInt8) : List UInt8 :=
  let s := (blocks text).foldl stir {}
  [s.a, s.b, s.c, s.d].flatMap fun word => lowestFirst 4 word.toNat

/-- The digest in hexadecimal digits. -/
def hex (text : List UInt8) : List Char :=
  Hex.write (digest text)

theorem length_digest (text : List UInt8) : (digest text).length = 16 := by
  simp [digest, lowestFirst]

theorem length_hex (text : List UInt8) : (hex text).length = 32 := by
  rw [hex, Hex.length_write, length_digest]

end TestImpact.Md5
