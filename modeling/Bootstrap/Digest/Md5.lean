import Bootstrap.Bytes

/-!
# MD5

The hash of a message is a fold over its blocks of 64 bytes.  The message is closed
by a bit, zeros, and its length in bits, the least significant byte first.
-/

namespace Bootstrap.Digest.Md5

/-- The bits of `x` turned left by `n` places. -/
def turnLeft (x n : UInt32) : UInt32 := (x <<< n) ||| (x >>> (32 - n))

/-- The round constants: the fractional parts of the sines of 1, 2, ... 64. -/
def roundConstants : List UInt32 :=
  [0xd76aa478, 0xe8c7b756, 0x242070db, 0xc1bdceee, 0xf57c0faf, 0x4787c62a, 0xa8304613, 0xfd469501,
    0x698098d8, 0x8b44f7af, 0xffff5bb1, 0x895cd7be, 0x6b901122, 0xfd987193, 0xa679438e, 0x49b40821,
    0xf61e2562, 0xc040b340, 0x265e5a51, 0xe9b6c7aa, 0xd62f105d, 0x02441453, 0xd8a1e681, 0xe7d3fbc8,
    0x21e1cde6, 0xc33707d6, 0xf4d50d87, 0x455a14ed, 0xa9e3e905, 0xfcefa3f8, 0x676f02d9, 0x8d2a4c8a,
    0xfffa3942, 0x8771f681, 0x6d9d6122, 0xfde5380c, 0xa4beea44, 0x4bdecfa9, 0xf6bb4b60, 0xbebfbc70,
    0x289b7ec6, 0xeaa127fa, 0xd4ef3085, 0x04881d05, 0xd9d4d039, 0xe6db99e5, 0x1fa27cf8, 0xc4ac5665,
    0xf4292244, 0x432aff97, 0xab9423a7, 0xfc93a039, 0x655b59c3, 0x8f0ccc92, 0xffeff47d, 0x85845dd1,
    0x6fa87e4f, 0xfe2ce6e0, 0xa3014314, 0x4e0811a1, 0xf7537e82, 0xbd3af235, 0x2ad7d2bb, 0xeb86d391]

/-- How far each round turns; every fourth of the rounds repeats four amounts. -/
def amounts : List (List UInt32) := [[7, 12, 17, 22], [5, 9, 14, 20], [4, 11, 16, 23], [6, 10, 15, 21]]

/-- The chaining value: four words. -/
structure Chain where
  a : UInt32
  b : UInt32
  c : UInt32
  d : UInt32

/-- The first chaining value. -/
def Chain.start : Chain := ⟨0x67452301, 0xefcdab89, 0x98badcfe, 0x10325476⟩

/-- A round with its number, on the words of a block. -/
def round (words : Array UInt32) (x : Chain) (i : Nat) (k : UInt32) : Chain :=
  let (mixed, word) := match i / 16 with
    | 0 => ((x.b &&& x.c) ||| (~~~x.b &&& x.d), i)
    | 1 => ((x.d &&& x.b) ||| (~~~x.d &&& x.c), (5 * i + 1) % 16)
    | 2 => (x.b ^^^ x.c ^^^ x.d, (3 * i + 5) % 16)
    | _ => (x.c ^^^ (x.b ||| ~~~x.d), (7 * i) % 16)
  let sum := mixed + x.a + k + words.getD word 0
  ⟨x.d, x.b + turnLeft sum ((amounts.getD (i / 16) []).getD (i % 4) 0), x.b, x.c⟩

/-- The little-endian words of a block. -/
def words : Bytes → List UInt32
  | b0 :: b1 :: b2 :: b3 :: rest =>
      (b0.toUInt32 ||| (b1.toUInt32 <<< 8) ||| (b2.toUInt32 <<< 16) ||| (b3.toUInt32 <<< 24))
        :: words rest
  | _ => []

/-- The compression function on one block. -/
def compress (chain : Chain) (block : Bytes) : Chain :=
  let ws := (words block).toArray
  let x := roundConstants.zipIdx.foldl (fun x (k, i) => round ws x i k) chain
  ⟨chain.a + x.a, chain.b + x.b, chain.c + x.c, chain.d + x.d⟩

/-- A message with what closes it: whole blocks. -/
def padded (message : Bytes) : Bytes :=
  let length := message.length
  message ++ 0x80 :: List.replicate ((119 - length % 64) % 64) 0 ++
    Bytes.littleEndian 8 (8 * length)

/-- Folds over the blocks of a message; `count` is their number. -/
def foldBlocks : (count : Nat) → Chain → Bytes → Chain
  | 0, chain, _ => chain
  | count + 1, chain, message =>
      foldBlocks count (compress chain (message.take 64)) (message.drop 64)

/-- The hash of a message. -/
def digest (message : Bytes) : Bytes :=
  let closed := padded message
  let x := foldBlocks (closed.length / 64) .start closed
  [x.a, x.b, x.c, x.d].flatMap fun w => Bytes.littleEndian 4 w.toNat

end Bootstrap.Digest.Md5
