import Bootstrap.Path
import Bootstrap.Text.Utf8

/-!
# Tape archives

An archive is a sequence of blocks of 512 bytes.  A member is a header block, and
for a file its content filled up to whole blocks; two blocks of zeros end the
archive.  A name of more than a hundred bytes goes into a record of its own in
front of the member.

Headers are deterministic: owner, group and time are constants, and of the
permission bits only the owner's execute bit counts.  `Member.encode` and
`Archive.encode` write, `read?` reads back.
-/

namespace Bootstrap.Tar

/-- The size of a block. -/
def blockSize : Nat := 512

/-- The size of the name field of a header. -/
def nameSize : Nat := 100

/-- The time that every member carries. -/
def fixedTime : Nat := 1153704088

/-- What a member is. -/
inductive Kind where
  | file
  | directory
  deriving DecidableEq, Repr

/-- The letter of a kind in a header. -/
def Kind.flag : Kind → UInt8
  | .file => 48
  | .directory => 53

/-- The letter of a record that carries a long name. -/
def longNameFlag : UInt8 := 76

/-- The name in the header of a record that carries a long name. -/
def longNameMark : Bytes := Text.Utf8.encode "././@LongLink"

/-- Bytes filled up with zeros to `width`. -/
def field (width : Nat) (bytes : Bytes) : Bytes := bytes ++ Bytes.zeros (width - bytes.length)

/-- The octal digits of `n`, at least `width` of them. -/
def octal (width n : Nat) : Bytes :=
  let digits := (Nat.toDigits 8 n).map fun c => UInt8.ofNat c.toNat
  List.replicate (width - digits.length) 48 ++ digits

/-- A number field: octal digits and a zero byte, or binary behind a marked byte when the digits
do not fit. -/
def number (width n : Nat) : Bytes :=
  if n < Nat.pow 8 (width - 1) then octal (width - 1) n ++ [0]
  else 0x80 :: Bytes.bigEndian (width - 1) n

/-- The sum of bytes as numbers. -/
def byteSum (bytes : Bytes) : Nat := bytes.foldl (fun sum b => sum + b.toNat) 0

/-- The contents of a header. -/
structure Header where
  name : Bytes
  mode : Nat
  size : Nat
  time : Nat
  flag : UInt8
  deriving DecidableEq, Repr

namespace Header

/-- What stands in front of the checksum. -/
def front (h : Header) : Bytes :=
  field nameSize h.name ++ number 8 h.mode ++ number 8 0 ++ number 8 0 ++ number 12 h.size ++
    number 12 h.time

/-- What stands behind the checksum. -/
def back (h : Header) : Bytes :=
  h.flag :: (Bytes.zeros 100 ++ Text.Utf8.encode "ustar  " ++ Bytes.zeros 248)

/-- The sum of the header's bytes, its own field counted as blanks. -/
def checksum (h : Header) : Nat := byteSum (h.front ++ h.back) + 8 * 32

/-- The header block. -/
def encode (h : Header) : Bytes := h.front ++ number 8 h.checksum ++ h.back

end Header

/-- Why a path cannot be the name of a member. -/
inductive NameFault where
  | tooLong
  | absolute
  | parentStep
  | empty
  deriving DecidableEq, Repr

/-- The text of a fault. -/
def NameFault.message : NameFault → String
  | tooLong => "provided value is too long"
  | absolute => "paths in archives must be relative"
  | parentStep => "paths in archives must not have \x60..\x60"
  | empty => "paths in archives must have at least one component"

/-- A name that was refused, with what was stored of it before. -/
structure NameError where
  fault : NameFault
  stored : Bytes
  deriving DecidableEq, Repr

/-- The text of a refusal. -/
def NameError.message (e : NameError) : String :=
  e.fault.message ++ " when setting path for " ++ Text.Utf8.decodeLossy e.stored

/-- Puts bytes behind a name, which must not outgrow its field. -/
def extendName (stored more : Bytes) : Except NameError Bytes :=
  if nameSize < stored.length + more.length then .error ⟨.tooLong, stored⟩
  else .ok (stored ++ more)

/-- Puts the text of a component behind a name, after a slash if there is one already. -/
def extendComponent (stored text : Bytes) : Except NameError Bytes := do
  let stored ← if stored.isEmpty then pure stored else extendName stored [47]
  extendName stored text

/-- Stores the components of a path as a name.  A `.` is left out unless it is all there is; when
`cutOff`, a final `..` may be the beginning of a longer name and is allowed. -/
def storeComponents (cutOff alone : Bool) (stored : Bytes) :
    List Path.Component → Except NameError Bytes
  | [] => .ok stored
  | .root :: _ => .error ⟨.absolute, stored⟩
  | .parent :: rest =>
      if cutOff && rest.isEmpty then do
        let stored ← extendComponent stored [46, 46]
        storeComponents cutOff alone stored rest
      else .error ⟨.parentStep, stored⟩
  | .current :: rest =>
      if alone then do
        let stored ← extendComponent stored [46]
        storeComponents cutOff alone stored rest
      else storeComponents cutOff alone stored rest
  | .name text :: rest => do
      let stored ← extendComponent stored (Text.Utf8.encode (String.ofList text))
      storeComponents cutOff alone stored rest

/-- The name field for a path. -/
def nameField (cutOff : Bool) (p : Path) : Except NameError Bytes := do
  let components := p.components
  let stored ← storeComponents cutOff (components.length == 1) [] components
  if stored.isEmpty then throw ⟨.empty, stored⟩
  else if p.endsWithSlash then extendName stored [47]
  else return stored

/-- The longest prefix of at most `limit` bytes that does not cut through a character. -/
def wholePrefix (limit : Nat) : List Char → List Char
  | [] => []
  | c :: rest =>
      if c.utf8Size ≤ limit then c :: wholePrefix (limit - c.utf8Size) rest else []

/-- Content filled up to whole blocks. -/
def padded (content : Bytes) : Bytes :=
  content ++ Bytes.zeros (Bytes.shortfall blockSize content.length)

/-- The record that carries a long name. -/
def longNameRecord (name : Bytes) : Bytes :=
  let content := name ++ [0]
  (Header.encode ⟨longNameMark, 0o644, content.length, 0, longNameFlag⟩) ++ padded content

/-- The bytes in front of a member's header, and the name field of the header.  A name that does
not fit its field goes into a record of its own, and the field gets the beginning of it. -/
def nameRecords (p : Path) : Except NameError (Bytes × Bytes) :=
  match nameField false p with
  | .ok stored => .ok ([], stored)
  | .error e =>
      let whole := Text.Utf8.encode p.text
      if whole.length < nameSize then .error e
      else
        match nameField true (.ofChars (wholePrefix nameSize p.chars)) with
        | .ok stored => .ok (longNameRecord whole, stored)
        | .error e => .error e

/-- A member of an archive. -/
structure Member where
  name : Path
  kind : Kind
  /-- Whether the owner may execute it. -/
  executable : Bool
  /-- The content of a file; nothing for a directory. -/
  content : Bytes
  deriving DecidableEq, Repr

namespace Member

/-- The permission bits that a member carries. -/
def mode (m : Member) : Nat :=
  if m.kind = .directory ∨ m.executable then 0o755 else 0o644

/-- The blocks of a member. -/
def encode (m : Member) : Except NameError Bytes := do
  let (records, stored) ← nameRecords m.name
  return records ++ (Header.encode ⟨stored, m.mode, m.content.length, fixedTime, m.kind.flag⟩) ++
    padded m.content

end Member

/-- The two blocks of zeros that end an archive. -/
def trailer : Bytes := Bytes.zeros (2 * blockSize)

/-- What a reader finds of a member. -/
structure Listed where
  name : Bytes
  flag : UInt8
  mode : Nat
  size : Nat
  time : Nat
  content : Bytes
  deriving DecidableEq, Repr

/-- The bytes in front of the first zero. -/
def untilZero (bytes : Bytes) : Bytes := bytes.takeWhile (· ≠ 0)

/-- Reads a number field. -/
def readNumber? (bytes : Bytes) : Option Nat :=
  match bytes with
  | 0x80 :: rest => some (Bytes.ofLittleEndian rest.reverse)
  | _ =>
      let digits := (untilZero bytes).filter (· ≠ 32)
      digits.foldlM (fun acc b =>
        if 48 ≤ b && b ≤ 55 then some (8 * acc + (b.toNat - 48)) else none) 0

/-- Reads a header block. -/
def readHeader? (block : Bytes) : Option Header := do
  let cut := fun (start width : Nat) => (block.drop start).take width
  let checksum ← readNumber? (cut 148 8)
  let sum := byteSum (block.take 148 ++ block.drop 156) + 8 * 32
  if block.length = blockSize ∧ sum = checksum then
    return ⟨untilZero (cut 0 nameSize), ← readNumber? (cut 100 8), ← readNumber? (cut 124 12),
      ← readNumber? (cut 136 12), (cut 156 1).headD 0⟩
  else none

/-- Reads members up to the end of an archive; `longName` is a name read ahead of its member, and
`fuel` bounds the number of records. -/
def readRecords? : (fuel : Nat) → (longName : Option Bytes) → Bytes → Option (List Listed)
  | 0, _, _ => none
  | fuel + 1, longName, bytes =>
      if bytes = trailer ∧ longName = none then some []
      else do
        let header ← readHeader? (bytes.take blockSize)
        let rest := bytes.drop blockSize
        let content := rest.take header.size
        let after := rest.drop (header.size + Bytes.shortfall blockSize header.size)
        if rest.length < header.size + Bytes.shortfall blockSize header.size then none
        else if header.flag = longNameFlag then
          readRecords? fuel (some (untilZero content)) after
        else
          let listed : Listed := ⟨longName.getD header.name, header.flag, header.mode, header.size,
            header.time, content⟩
          return listed :: (← readRecords? fuel none after)

/-- Reads an archive: its members, ended by exactly two blocks of zeros. -/
def read? (bytes : Bytes) : Option (List Listed) :=
  readRecords? (bytes.length / blockSize + 1) none bytes

end Bootstrap.Tar
