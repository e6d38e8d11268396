import Bootstrap.Bytes

/-!
# UTF-8

Text becomes bytes by `encode`.  The way back cuts a byte stream into
*pieces*: a well-formed character, or a stretch of bytes that begins one and
cannot be completed.  Strict reading refuses such a stretch, lossy reading shows
one replacement character for each.
-/

namespace Bootstrap.Text.Utf8

/-- The UTF-8 bytes of a text. -/
def encode (text : String) : Bytes := text.toList.flatMap String.utf8EncodeChar

/-- What stands at the front of a byte stream. -/
inductive Piece where
  /-- A well-formed character. -/
  | char (c : Char)
  /-- The longest stretch that begins a character without completing it. -/
  | broken
  deriving DecidableEq, Repr

/-- A byte that continues a character. -/
def isContinuation (b : UInt8) : Bool := 0x80 ≤ b && b ≤ 0xBF

/-- How many bytes follow the leading byte `b` (none for a byte that cannot
lead), and which second bytes it allows.  The narrow second ranges keep out
overlong forms, surrogates and values above the last code point. -/
def follow (b : UInt8) : Nat × UInt8 × UInt8 :=
  if 0xC2 ≤ b && b ≤ 0xDF then (1, 0x80, 0xBF)
  else if b == 0xE0 then (2, 0xA0, 0xBF)
  else if b == 0xED then (2, 0x80, 0x9F)
  else if 0xE1 ≤ b && b ≤ 0xEF then (2, 0x80, 0xBF)
  else if b == 0xF0 then (3, 0x90, 0xBF)
  else if b == 0xF4 then (3, 0x80, 0x8F)
  else if 0xF1 ≤ b && b ≤ 0xF3 then (3, 0x80, 0xBF)
  else (0, 1, 0)

/-- The bits that a leading byte contributes, given how many bytes follow it. -/
def leadingBits (following : Nat) (b : UInt8) : Nat := b.toNat % (1 <<< (6 - following))

/-- Reads `following` continuation bytes onto the value `acc`. -/
def continuation : (following acc : Nat) → Bytes → Piece × Bytes
  | 0, acc, rest => (.char (Char.ofNat acc), rest)
  | _ + 1, _, [] => (.broken, [])
  | n + 1, acc, b :: rest =>
      if isContinuation b then continuation n (acc * 64 + b.toNat % 64) rest
      else (.broken, b :: rest)

/-- Reads what follows a leading byte whose bits are `acc`: a second byte from `low` to `high`,
then continuation bytes. -/
def followers (low high : UInt8) : (following acc : Nat) → Bytes → Piece × Bytes
  | 0, _, rest => (.broken, rest)
  | _ + 1, _, [] => (.broken, [])
  | n + 1, acc, b :: rest =>
      if low ≤ b && b ≤ high then continuation n (acc * 64 + b.toNat % 64) rest
      else (.broken, b :: rest)

/-- The piece that begins with byte `b`, and what follows it. -/
def piece (b : UInt8) (rest : Bytes) : Piece × Bytes :=
  if b < 0x80 then (.char (Char.ofNat b.toNat), rest)
  else
    let (n, low, high) := follow b
    followers low high n (leadingBits n b) rest

theorem length_continuation_le (n acc : Nat) (rest : Bytes) :
    (continuation n acc rest).2.length ≤ rest.length := by
  induction n generalizing acc rest with
  | zero => simp [continuation]
  | succ n ih =>
      cases rest with
      | nil => simp [continuation]
      | cons b rest =>
          simp only [continuation]
          split
          · exact Nat.le_trans (ih _ _) (by simp)
          · simp

theorem length_followers_le (low high : UInt8) (n acc : Nat) (rest : Bytes) :
    (followers low high n acc rest).2.length ≤ rest.length := by
  cases n with
  | zero => simp [followers]
  | succ n =>
      cases rest with
      | nil => simp [followers]
      | cons b rest =>
          simp only [followers]
          split
          · exact Nat.le_trans (length_continuation_le _ _ _) (by simp)
          · simp

/-- A piece takes its first byte and never gives bytes back. -/
theorem length_piece_le (b : UInt8) (rest : Bytes) :
    (piece b rest).2.length ≤ rest.length := by
  unfold piece
  split
  · simp
  · exact length_followers_le _ _ _ _ _

/-- The pieces of a byte stream, in order. -/
def pieces : Bytes → List Piece
  | [] => []
  | b :: rest => (piece b rest).1 :: pieces (piece b rest).2
termination_by bytes => bytes.length
decreasing_by
  have := length_piece_le b rest
  simp only [List.length_cons]
  omega

/-- The characters of a well-formed stream; `none` if any stretch is broken. -/
def decodeChars? (bytes : Bytes) : Option (List Char) :=
  (pieces bytes).mapM fun
    | .char c => some c
    | .broken => none

/-- Strict reading. -/
def decode? (bytes : Bytes) : Option String := (decodeChars? bytes).map String.ofList

/-- The replacement character. -/
def replacement : Char := '\uFFFD'

/-- Lossy reading: each broken stretch shows as one replacement character. -/
def decodeLossy (bytes : Bytes) : String :=
  String.ofList ((pieces bytes).map fun
    | .char c => c
    | .broken => replacement)

end Bootstrap.Text.Utf8
