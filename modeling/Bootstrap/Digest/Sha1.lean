import Bootstrap.Bytes

/-!
# SHA-1

The hash of a message is a fold over its blocks of 64 bytes.  The message is closed
by a bit, zeros, and its length in bits, the most significant byte first.
-/

namespace Bootstrap.Digest.Sha1

/-- The bits of `x` turned left by `n` places. -/
def turnLeft (x n : UInt32) : UInt32 := (x <<< n) ||| (x >>> (32 - n))

/-- The chaining value: five words. -/
structure Chain where
  a : UInt32
  b : UInt32
  c : UInt32
  d : UInt32
  e : UInt32

/-- The first chaining value. -/
def Chain.start : Chain := ⟨0x67452301, 0xefcdab89, 0x98badcfe, 0x10325476, 0xc3d2e1f0⟩

/-- The big-endian words of a block. -/
def words : Bytes → List UInt32
  | b0 :: b1 :: b2 :: b3 :: rest =>
      ((b0.toUInt32 <<< 24) ||| (b1.toUInt32 <<< 16) ||| (b2.toUInt32 <<< 8) ||| b3.toUInt32)
        :: words rest
  | _ => []

/-- The message schedule as a window of sixteen words: its oldest word is used, a new one enters. -/
def slide (window : List UInt32) : List UInt32 :=
  window.tail ++ [turnLeft (window.getD 13 0 ^^^ window.getD 8 0 ^^^ window.getD 2 0 ^^^
    window.getD 0 0) 1]

/-- A round with its number and schedule word `w`. -/
def round (x : Chain) (i : Nat) (w : UInt32) : Chain :=
  let (mixed, k) : UInt32 × UInt32 := match i / 20 with
    | 0 => ((x.b &&& x.c) ||| (~~~x.b &&& x.d), 0x5a827999)
    | 1 => (x.b ^^^ x.c ^^^ x.d, 0x6ed9eba1)
    | 2 => ((x.b &&& x.c) ||| (x.b &&& x.d) ||| (x.c &&& x.d), 0x8f1bbcdc)
    | _ => (x.b ^^^ x.c ^^^ x.d, 0xca62c1d6)
  ⟨turnLeft x.a 5 + mixed + x.e + k + w, x.a, turnLeft x.b 30, x.c, x.d⟩

/-- The compression function on one block. -/
def compress (chain : Chain) (block : Bytes) : Chain :=
  let (x, _) := (List.range 80).foldl
    (fun (x, window) i => (round x i (window.headD 0), slide window)) (chain, words block)
  ⟨chain.a + x.a, chain.b + x.b, chain.c + x.c, chain.d + x.d, chain.e + x.e⟩

/-- A message with what closes it: whole blocks. -/
def padded (message : Bytes) : Bytes :=
  let length := message.length
  message ++ 0x80 :: List.replicate ((119 - length % 64) % 64) 0 ++
    Bytes.bigEndian 8 (8 * length)

/-- Folds over the blocks of a message; `count` is their number. -/
def foldBlocks : (count : Nat) → Chain → Bytes → Chain
  | 0, chain, _ => chain
  | count + 1, chain, message =>
      foldBlocks count (compress chain (message.take 64)) (message.drop 64)

/-- The hash of a message. -/
def digest (message : Bytes) : Bytes :=
  let closed := padded message
  let x := foldBlocks (closed.length / 64) .start closed
  [x.a, x.b, x.c, x.d, x.e].flatMap fun w => Bytes.bigEndian 4 w.toNat

end Bootstrap.Digest.Sha1
