import Bootstrap.Archive.Inflate

/-!
# Gzip members

A gzip member wraps a deflated stream with a header and with the checksum and
the length of the content.  `wrap` writes a member without name or time;
`unwrap?` reads any file that consists of one member.
-/

namespace Bootstrap.Gzip

/-- One bit of the checksum register. -/
def crcBit (c : UInt32) : UInt32 := if c &&& 1 = 1 then (c >>> 1) ^^^ 0xEDB88320 else c >>> 1

/-- Takes one byte into the checksum register. -/
def crcByte (c : UInt32) (b : UInt8) : UInt32 :=
  crcBit (crcBit (crcBit (crcBit (crcBit (crcBit (crcBit (crcBit (c ^^^ b.toUInt32))))))))

/-- The cyclic redundancy check of some content. -/
def crc32 (content : Bytes) : UInt32 := content.foldl crcByte 0xFFFFFFFF ^^^ 0xFFFFFFFF

/-- The header of a member without name and time. -/
def header : Bytes := [0x1F, 0x8B, 8, 0, 0, 0, 0, 0, 0, 0xFF]

/-- What follows the header of a member that holds `content`. -/
def body (content : Bytes) : Bytes :=
  Inflate.store content ++ Bytes.littleEndian 4 (crc32 content).toNat ++
    Bytes.littleEndian 4 content.length

/-- A member that holds `content`. -/
def wrap (content : Bytes) : Bytes := header ++ body content

/-- Drops a text and the zero byte that ends it. -/
def dropText (bytes : Bytes) : Bytes := (bytes.dropWhile (· ≠ 0)).drop 1

/-- Drops the optional fields of a header that `flags` announces. -/
def dropOptions (flags : Nat) (bytes : Bytes) : Bytes :=
  let has := fun bit => flags.testBit bit
  let bytes := if has 2 then bytes.drop (2 + Bytes.ofLittleEndian (bytes.take 2)) else bytes
  let bytes := if has 3 then dropText bytes else bytes
  let bytes := if has 4 then dropText bytes else bytes
  if has 1 then bytes.drop 2 else bytes

/-- The content of a file that is one member. -/
def unwrap? (file : Bytes) : Option Bytes :=
  match file with
  | 0x1F :: 0x8B :: 8 :: flags :: _ :: _ :: _ :: _ :: _ :: _ :: rest => do
      let (content, tail) ← Inflate.inflate? (dropOptions flags.toNat rest)
      if tail = Bytes.littleEndian 4 (crc32 content).toNat ++
          Bytes.littleEndian 4 content.length then return content
      else none
  | _ => none

end Bootstrap.Gzip
