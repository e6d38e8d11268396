import Bootstrap.Bytes

/-!
# SHA-256

The hash of a message is a fold of the compression function over its blocks of
64 bytes.  A running hash (`Stream`) takes the message in pieces of any length:
it holds the chaining value of the full blocks so far, the bytes of the block
under way and the total length.  `digest` closes it with the padding that names
the length.
-/

namespace Bootstrap.Digest.Sha256

/-- The bytes of one block. -/
def blockSize : Nat := 64

/-- The bits of `x` turned right by `n` places. -/
def turnRight (x n : UInt32) : UInt32 := (x >>> n) ||| (x <<< (32 - n))

/-- The round constants: the fractional parts of the cube roots of the first 64 primes. -/
def roundConstants : List UInt32 :=
  [0x428a2f98, 0x71374491, 0xb5c0fbcf, 0xe9b5dba5, 0x3956c25b, 0x59f111f1, 0x923f82a4, 0xab1c5ed5,
    0xd807aa98, 0x12835b01, 0x243185be, 0x550c7dc3, 0x72be5d74, 0x80deb1fe, 0x9bdc06a7, 0xc19bf174,
    0xe49b69c1, 0xefbe4786, 0x0fc19dc6, 0x240ca1cc, 0x2de92c6f, 0x4a7484aa, 0x5cb0a9dc, 0x76f988da,
    0x983e5152, 0xa831c66d, 0xb00327c8, 0xbf597fc7, 0xc6e00bf3, 0xd5a79147, 0x06ca6351, 0x14292967,
    0x27b70a85, 0x2e1b2138, 0x4d2c6dfc, 0x53380d13, 0x650a7354, 0x766a0abb, 0x81c2c92e, 0x92722c85,
    0xa2bfe8a1, 0xa81a664b, 0xc24b8b70, 0xc76c51a3, 0xd192e819, 0xd6990624, 0xf40e3585, 0x106aa070,
    0x19a4c116, 0x1e376c08, 0x2748774c, 0x34b0bcb5, 0x391c0cb3, 0x4ed8aa4a, 0x5b9cca4f, 0x682e6ff3,
    0x748f82ee, 0x78a5636f, 0x84c87814, 0x8cc70208, 0x90befffa, 0xa4506ceb, 0xbef9a3f7, 0xc67178f2]

/-- The chaining value: eight words. -/
structure Chain where
  a : UInt32
  b : UInt32
  c : UInt32
  d : UInt32
  e : UInt32
  f : UInt32
  g : UInt32
  h : UInt32
  deriving DecidableEq, Repr

/-- The first chaining value: the fractional parts of the square roots of the first 8 primes. -/
def Chain.start : Chain :=
  ⟨0x6a09e667, 0xbb67ae85, 0x3c6ef372, 0xa54ff53a, 0x510e527f, 0x9b05688c, 0x1f83d9ab, 0x5be0cd19⟩

/-- Wordwise sum. -/
def Chain.add (x y : Chain) : Chain :=
  ⟨x.a + y.a, x.b + y.b, x.c + y.c, x.d + y.d, x.e + y.e, x.f + y.f, x.g + y.g, x.h + y.h⟩

/-- The eight words as bytes, most significant first. -/
def Chain.toBytes (x : Chain) : Bytes :=
  [x.a, x.b, x.c, x.d, x.e, x.f, x.g, x.h].flatMap fun w => Bytes.bigEndian 4 w.toNat

/-- The big-endian words of a block. -/
def words : Bytes → List UInt32
  | b0 :: b1 :: b2 :: b3 :: rest =>
      ((b0.toUInt32 <<< 24) ||| (b1.toUInt32 <<< 16) ||| (b2.toUInt32 <<< 8) ||| b3.toUInt32)
        :: words rest
  | _ => []

/-- The message schedule as a window of sixteen words: its oldest word is used, a new one enters. -/
def slide : List UInt32 → List UInt32
  | [w0, w1, w2, w3, w4, w5, w6, w7, w8, w9, w10, w11, w12, w13, w14, w15] =>
      let s0 := turnRight w1 7 ^^^ turnRight w1 18 ^^^ (w1 >>> 3)
      let s1 := turnRight w14 17 ^^^ turnRight w14 19 ^^^ (w14 >>> 10)
      [w1, w2, w3, w4, w5, w6, w7, w8, w9, w10, w11, w12, w13, w14, w15, w0 + s0 + w9 + s1]
  | window => window

/-- One round with schedule word `w` and constant `k`. -/
def round (x : Chain) (w k : UInt32) : Chain :=
  let s1 := turnRight x.e 6 ^^^ turnRight x.e 11 ^^^ turnRight x.e 25
  let choice := (x.e &&& x.f) ^^^ (~~~x.e &&& x.g)
  let t1 := x.h + s1 + choice + k + w
  let s0 := turnRight x.a 2 ^^^ turnRight x.a 13 ^^^ turnRight x.a 22
  let majority := (x.a &&& x.b) ^^^ (x.a &&& x.c) ^^^ (x.b &&& x.c)
  ⟨t1 + (s0 + majority), x.a, x.b, x.c, x.d + t1, x.e, x.f, x.g⟩

/-- The compression function on one block. -/
def compress (chain : Chain) (block : Bytes) : Chain :=
  let final := roundConstants.foldl
    (fun (state : Chain × List UInt32) k =>
      (round state.1 (state.2.headD 0) k, slide state.2))
    (chain, words block)
  chain.add final.1

/-- A hash under way. -/
structure Stream where
  /-- The chaining value of the full blocks. -/
  chain : Chain
  /-- The bytes of the block under way, latest first. -/
  pending : Bytes
  /-- How many bytes are pending. -/
  count : Nat
  /-- The number of bytes taken so far. -/
  length : Nat
  deriving Repr

namespace Stream

/-- Nothing taken yet. -/
def start : Stream := ⟨.start, [], 0, 0⟩

/-- Takes one byte; a block that is full is compressed. -/
def push (s : Stream) (b : UInt8) : Stream :=
  if s.count + 1 = blockSize then
    ⟨compress s.chain (b :: s.pending).reverse, [], 0, s.length + 1⟩
  else ⟨s.chain, b :: s.pending, s.count + 1, s.length + 1⟩

/-- Takes a piece of the message. -/
def update (s : Stream) (piece : Bytes) : Stream := piece.foldl push s

/-- A message may be taken in any pieces. -/
theorem update_append (s : Stream) (x y : Bytes) : s.update (x ++ y) = (s.update x).update y := by
  simp [update]

/-- The padding behind a message of `n` bytes: a one bit, zeros up to eight bytes before the end
of a block, and the number of bits in the message. -/
def padding (n : Nat) : Bytes :=
  0x80 :: (Bytes.zeros (Bytes.shortfall blockSize (n + 9)) ++ Bytes.bigEndian 8 (8 * n))

/-- The hash of what was taken. -/
def finish (s : Stream) : Bytes := (s.update (padding s.length)).chain.toBytes

end Stream

/-- The 32 bytes of the hash of a message. -/
def digest (message : Bytes) : Bytes := (Stream.start.update message).finish

end Bootstrap.Digest.Sha256
