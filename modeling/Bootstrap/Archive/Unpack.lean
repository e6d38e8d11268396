import Bootstrap.Archive.Gzip
import Bootstrap.Archive.Tar
import Bootstrap.FileSystem.Furnish

/-!
# Unpacking archives

The counterpart of packing: the files and directories of an archive are put where
their names say, seen from the current directory.
-/

namespace Bootstrap

namespace Tar

/-- How many blocks a tape record has; some writers fill the last one with blocks of zeros. -/
def recordBlocks : Nat := 20

/-- The members of an archive, which may be compressed and end in a filled record. -/
def readAny? (file : Bytes) : Option (List Listed) :=
  let content := (Gzip.unwrap? file).getD file
  (List.range recordBlocks).findSome? fun surplus =>
    read? (content.take (content.length - surplus * blockSize))

/-- What a member puts into a file system; other kinds of members put nothing. -/
def Listed.furniture? (m : Listed) : Option Furniture :=
  if m.flag = 0x30 then some (.file m.content (some m.mode))
  else if m.flag = 0x35 then some .directory
  else none

/-- The path that a member's name stands for. -/
def Listed.path (m : Listed) : Path := ⟨Text.Utf8.decodeLossy m.name⟩

end Tar

namespace FileOp

/-- Puts members in their places.  One that cannot be put is left out. -/
def unpack {ε : Type} : List Tar.Listed → FileOp ε Unit
  | [] => pure ()
  | m :: rest => do
      match m.furniture? with
      | some item => ignore (furnish m.path item)
      | none => pure ()
      unpack rest

end FileOp

end Bootstrap
