/-!
# Bytes

File contents, captured output and archive streams are lists of bytes.  A list
keeps every question about them (equal, prefix, cut at a length) a question
about lists.
-/

namespace Bootstrap

/-- The contents of a file or of a stream. -/
abbrev Bytes := List UInt8

namespace Bytes

/-- `n` zero bytes, the filler of fixed-size records. -/
def zeros (n : Nat) : Bytes := List.replicate n 0

/-- The number of filler bytes that bring `size` to a multiple of `block`. -/
def shortfall (block size : Nat) : Nat := (block - size % block) % block

/-- Little-endian octets of `value`, exactly `width` of them. -/
def littleEndian : (width value : Nat) → Bytes
  | 0, _ => []
  | width + 1, value => UInt8.ofNat value :: littleEndian width (value / 256)

/-- The number written in little-endian octets. -/
def ofLittleEndian : Bytes → Nat
  | [] => 0
  | b :: rest => b.toNat + 256 * ofLittleEndian rest

/-- Big-endian octets of `value`, exactly `width` of them. -/
def bigEndian (width value : Nat) : Bytes := (littleEndian width value).reverse

/-- One lowercase hexadecimal digit. -/
def hexDigit (n : Nat) : Char :=
  if n < 10 then Char.ofNat (48 + n) else Char.ofNat (87 + n)

/-- Two lowercase hexadecimal digits for each byte. -/
def hexDigits (bytes : Bytes) : List Char :=
  bytes.flatMap fun b => [hexDigit (b.toNat / 16), hexDigit (b.toNat % 16)]

/-- The value of a hexadecimal digit of either case. -/
def hexValue? (c : Char) : Option Nat :=
  if '0' ≤ c ∧ c ≤ '9' then some (c.toNat - 48)
  else if 'a' ≤ c ∧ c ≤ 'f' then some (c.toNat - 87)
  else if 'A' ≤ c ∧ c ≤ 'F' then some (c.toNat - 55)
  else none

/-- The bytes that hexadecimal digits stand for, two digits to a byte. -/
def ofHexDigits? : List Char → Option Bytes
  | [] => some []
  | high :: low :: rest => do
      let h ← hexValue? high
      let l ← hexValue? low
      return UInt8.ofNat (16 * h + l) :: (← ofHexDigits? rest)
  | _ => none

end Bytes

end Bootstrap
