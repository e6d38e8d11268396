import Bootstrap.Bytes

/-!
# A cyclic redundancy check

The check of a message is that of its bytes and of its length, the least significant
byte first and without zeros behind it, in the order of the most significant bit.
-/

namespace Bootstrap.Digest.Crc

/-- The polynomial. -/
def polynomial : UInt32 := 0x04c11db7

/-- Takes one bit. -/
def shift (x : UInt32) : UInt32 :=
  if x &&& 0x80000000 != 0 then (x <<< 1) ^^^ polynomial else x <<< 1

/-- Takes one byte. -/
def step (x : UInt32) (b : UInt8) : UInt32 :=
  (List.range 8).foldl (fun x _ => shift x) (x ^^^ (b.toUInt32 <<< 24))

/-- The bytes of a length, which is below `256 ^ count`. -/
def lengthBytes : (count : Nat) → Nat → Bytes
  | 0, _ => []
  | count + 1, n => if n = 0 then [] else UInt8.ofNat n :: lengthBytes count (n / 256)

/-- The check of a message. -/
def digest (message : Bytes) : Nat :=
  (~~~((message ++ lengthBytes 8 message.length).foldl step 0)).toNat

end Bootstrap.Digest.Crc
