import Bootstrap.Bytes

/-!
# Inflating compressed data

A deflated stream is a sequence of blocks.  A stored block holds plain bytes; the
other kinds hold symbols under prefix codes, which stand for bytes or for
stretches of what came before.  `inflate?` reads a stream and says what follows
it.  `store` writes one that consists of stored blocks.
-/

namespace Bootstrap.Inflate

/-- A byte stream with the number of bits that are used up of its first byte. -/
structure BitReader where
  rest : Bytes
  used : Nat
  deriving Repr

namespace BitReader

/-- The next bit. -/
def bit? (r : BitReader) : Option (Nat × BitReader) :=
  match r.rest with
  | [] => none
  | b :: rest =>
      let value := (b.toNat >>> r.used) % 2
      if r.used = 7 then some (value, ⟨rest, 0⟩) else some (value, ⟨b :: rest, r.used + 1⟩)

/-- The number in the next `n` bits, least significant bit first. -/
def bits? : (n : Nat) → BitReader → Option (Nat × BitReader)
  | 0, r => some (0, r)
  | n + 1, r => do
      let (low, r) ← r.bit?
      let (high, r) ← bits? n r
      return (low + 2 * high, r)

/-- Skips to the next whole byte. -/
def align (r : BitReader) : BitReader := if r.used = 0 then r else ⟨r.rest.drop 1, 0⟩

end BitReader

/-- A prefix code: how many codes there are of each length from one on, and the symbols in the
order of their codes. -/
structure PrefixCode where
  counts : List Nat
  symbols : Array Nat
  deriving Repr

/-- The longest code. -/
def maxCodeLength : Nat := 15

/-- The code in which symbol `i` has a code of `lengths[i]` bits, or none if that is zero. -/
def PrefixCode.ofLengths (lengths : List Nat) : PrefixCode :=
  let indexed := lengths.zipIdx
  let ofLength := fun n => (indexed.filter (·.1 = n)).map (·.2)
  let byLength := (List.range maxCodeLength).map fun i => ofLength (i + 1)
  ⟨byLength.map List.length, byLength.flatten.toArray⟩

/-- Reads one symbol.  `code` is what was read of it, `first` the smallest code of the present
length, `index` the number of shorter codes. -/
def symbolFrom? (symbols : Array Nat) : (counts : List Nat) → (code first index : Nat) →
    BitReader → Option (Nat × BitReader)
  | [], _, _, _, _ => none
  | count :: longer, code, first, index, r => do
      let (b, r) ← r.bit?
      let code := 2 * code + b
      if first ≤ code ∧ code < first + count then
        return (← symbols[index + (code - first)]?, r)
      else symbolFrom? symbols longer code (2 * (first + count)) (index + count) r

/-- Reads one symbol. -/
def PrefixCode.symbol? (c : PrefixCode) (r : BitReader) : Option (Nat × BitReader) :=
  symbolFrom? c.symbols c.counts 0 0 0 r

/-- Base length and extra bits of the symbols from 257 on. -/
def lengthTable : Array (Nat × Nat) :=
  #[(3, 0), (4, 0), (5, 0), (6, 0), (7, 0), (8, 0), (9, 0), (10, 0), (11, 1), (13, 1), (15, 1),
    (17, 1), (19, 2), (23, 2), (27, 2), (31, 2), (35, 3), (43, 3), (51, 3), (59, 3), (67, 4),
    (83, 4), (99, 4), (115, 4), (131, 5), (163, 5), (195, 5), (227, 5), (258, 0)]

/-- Base distance and extra bits of the distance symbols. -/
def distanceTable : Array (Nat × Nat) :=
  #[(1, 0), (2, 0), (3, 0), (4, 0), (5, 1), (7, 1), (9, 2), (13, 2), (17, 3), (25, 3), (33, 4),
    (49, 4), (65, 5), (97, 5), (129, 6), (193, 6), (257, 7), (385, 7), (513, 8), (769, 8),
    (1025, 9), (1537, 9), (2049, 10), (3073, 10), (4097, 11), (6145, 11), (8193, 12), (12289, 12),
    (16385, 13), (24577, 13)]

/-- Reads the number that a symbol of a table begins. -/
def tableNumber? (table : Array (Nat × Nat)) (symbol : Nat) (r : BitReader) :
    Option (Nat × BitReader) := do
  let (base, extra) ← table[symbol]?
  let (more, r) ← r.bits? extra
  return (base + more, r)

/-- Repeats `count` bytes from `distance` bytes back. -/
def copyBack (distance : Nat) : (count : Nat) → Array UInt8 → Option (Array UInt8)
  | 0, out => some out
  | count + 1, out =>
      if distance = 0 ∨ out.size < distance then none
      else do copyBack distance count (out.push (← out[out.size - distance]?))

/-- Reads symbols up to the end of a block; `fuel` bounds their number. -/
def symbols? (literals distances : PrefixCode) : (fuel : Nat) → Array UInt8 → BitReader →
    Option (Array UInt8 × BitReader)
  | 0, _, _ => none
  | fuel + 1, out, r => do
      let (symbol, r) ← literals.symbol? r
      if symbol < 256 then symbols? literals distances fuel (out.push (UInt8.ofNat symbol)) r
      else if symbol = 256 then return (out, r)
      else
        let (count, r) ← tableNumber? lengthTable (symbol - 257) r
        let (distanceSymbol, r) ← distances.symbol? r
        let (distance, r) ← tableNumber? distanceTable distanceSymbol r
        symbols? literals distances fuel (← copyBack distance count out) r

/-- The fixed code of bytes and lengths. -/
def fixedLiterals : PrefixCode :=
  .ofLengths (List.replicate 144 8 ++ List.replicate 112 9 ++ List.replicate 24 7 ++
    List.replicate 8 8)

/-- The fixed code of distances. -/
def fixedDistances : PrefixCode := .ofLengths (List.replicate 30 5)

/-- The order in which the lengths of the code-length code are listed. -/
def codeLengthOrder : List Nat :=
  [16, 17, 18, 0, 8, 7, 9, 6, 10, 5, 11, 4, 12, 3, 13, 2, 14, 1, 15]

/-- Reads `n` numbers of three bits. -/
def triples? : (n : Nat) → BitReader → Option (List Nat × BitReader)
  | 0, r => some ([], r)
  | n + 1, r => do
      let (x, r) ← r.bits? 3
      let (xs, r) ← triples? n r
      return (x :: xs, r)

/-- Reads code lengths until there are `wanted`; the latest stands first, and `fuel` bounds the
number of symbols. -/
def codeLengths? (code : PrefixCode) (wanted : Nat) : (fuel : Nat) → List Nat → BitReader →
    Option (List Nat × BitReader)
  | 0, _, _ => none
  | fuel + 1, latest, r =>
      if wanted < latest.length then none
      else if latest.length = wanted then some (latest.reverse, r)
      else do
        let (symbol, r) ← code.symbol? r
        if symbol < 16 then codeLengths? code wanted fuel (symbol :: latest) r
        else if symbol = 16 then
          let (n, r) ← r.bits? 2
          codeLengths? code wanted fuel (List.replicate (n + 3) (← latest.head?) ++ latest) r
        else if symbol = 17 then
          let (n, r) ← r.bits? 3
          codeLengths? code wanted fuel (List.replicate (n + 3) 0 ++ latest) r
        else
          let (n, r) ← r.bits? 7
          codeLengths? code wanted fuel (List.replicate (n + 11) 0 ++ latest) r

/-- Reads the two codes of a block that brings its own. -/
def ownCodes? (r : BitReader) : Option (PrefixCode × PrefixCode × BitReader) := do
  let (hlit, r) ← r.bits? 5
  let (hdist, r) ← r.bits? 5
  let (hclen, r) ← r.bits? 4
  let (listed, r) ← triples? (hclen + 4) r
  let table := codeLengthOrder.zip listed
  let code := PrefixCode.ofLengths ((List.range 19).map fun i => (table.lookup i).getD 0)
  let literalCount := hlit + 257
  let total := literalCount + (hdist + 1)
  let (lengths, r) ← codeLengths? code total (total + 1) [] r
  return (.ofLengths (lengths.take literalCount), .ofLengths (lengths.drop literalCount), r)

/-- Reads blocks up to the last one; `fuel` bounds their number and their symbols. -/
def blocks? : (fuel : Nat) → Array UInt8 → BitReader → Option (Array UInt8 × BitReader)
  | 0, _, _ => none
  | fuel + 1, out, r => do
      let (last, r) ← r.bit?
      let (kind, r) ← r.bits? 2
      let (out, r) ←
        if kind = 0 then do
          let r := r.align
          let size := Bytes.ofLittleEndian (r.rest.take 2)
          let check := Bytes.ofLittleEndian ((r.rest.drop 2).take 2)
          let content := (r.rest.drop 4).take size
          if size + check = 0xFFFF ∧ content.length = size then
            some (out ++ content.toArray, (⟨r.rest.drop (4 + size), 0⟩ : BitReader))
          else none
        else if kind = 1 then symbols? fixedLiterals fixedDistances fuel out r
        else if kind = 2 then do
          let (literals, distances, r) ← ownCodes? r
          symbols? literals distances fuel out r
        else none
      if last = 1 then return (out, r) else blocks? fuel out r

/-- Reads a deflated stream; the answer is the content and the bytes behind the stream. -/
def inflate? (bytes : Bytes) : Option (Bytes × Bytes) := do
  let (out, r) ← blocks? (8 * bytes.length + 1) #[] ⟨bytes, 0⟩
  return (out.toList, r.align.rest)

/-- The most bytes of a stored block. -/
def storedLimit : Nat := 65535

/-- One stored block. -/
def storedBlock (last : Bool) (content : Bytes) : Bytes :=
  (if last then 1 else 0) :: (Bytes.littleEndian 2 content.length ++
    Bytes.littleEndian 2 (0xFFFF - content.length) ++ content)

/-- A deflated stream of stored blocks. -/
def store (content : Bytes) : Bytes :=
  if _h : content.length ≤ storedLimit then storedBlock true content
  else storedBlock false (content.take storedLimit) ++ store (content.drop storedLimit)
termination_by content.length
decreasing_by
  simp only [List.length_drop, storedLimit] at *
  omega

end Bootstrap.Inflate
