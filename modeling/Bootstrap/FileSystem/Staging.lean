import Bootstrap.FileSystem.Operation
import Bootstrap.Text.Quoted

/-!
# Write beside, then rename

A file is never written in place.  Its content goes into a staging file in the
directory of the destination, and one `rename` puts it there, so the destination
is at every instant what it was or what it shall be.  A staging file that is not
put in place is removed.
-/

namespace Bootstrap

/-- The permission bits of a staging file. -/
def stagingMode : Nat := 0o600

/-- The name of the `n`-th candidate for a staging file. -/
def stagingName (n : Nat) : String :=
  let digits := Nat.toDigits 10 n
  String.ofList (".tmp".toList ++ List.replicate (6 - digits.length) '0' ++ digits)

/-- The first candidate that no entry of the directory has.  A tree with `n` nodes leaves one of the
first `n + 1` candidates free. -/
def FileSystem.freeName (fs : FileSystem) (directory : Location) : String :=
  let candidates := (List.range (fs.nodes.length + 1)).map stagingName
  (candidates.find? fun name => (fs.nodeAt? (directory ++ [name])).isNone).getD (stagingName 0)

/-- A staging file. -/
structure Staged where
  /-- Its path, absolute so that it means the same from every directory. -/
  path : Path
  /-- The number of the file, by which it is known even when others move it. -/
  number : Nat
  deriving DecidableEq, Repr

namespace Staged

/-- The directory in which a destination is staged. -/
def directoryOf (destination : Path) : Path :=
  match destination.parent? with
  | some up => if up.text.isEmpty then ⟨"."⟩ else up
  | none => ⟨"."⟩

/-- A directory as a path that means the same from every directory. -/
def fromRoot (directory : Path) : FileOp IoError Path :=
  if directory.isAbsolute then pure directory
  else do return (← FileOp.look FileSystem.currentDirectory).join directory

/-- The path of the first free candidate in a directory. -/
def candidate (fs : FileSystem) (cwd : Location) (directory : Path) : Path :=
  directory.push <|
    match fs.locate cwd directory with
    | .ok place => fs.freeName place
    | .error _ => stagingName 0

/-- Creates an empty file under a name that must be free. -/
def createEmpty (path : Path) : FileOp IoError Unit := do
  FileOp.checkPath path
  FileOp.change fun fs cwd => fs.createNew cwd path stagingMode

/-- Makes an empty staging file in a directory. -/
def createIn (directory : Path) : FileOp IoError Staged := do
  let fs ← FileOp.current
  let path := candidate fs (← FileOp.here) directory
  match ← FileOp.attempt (createEmpty path) with
  | .ok () => return ⟨path, fs.freshNumber⟩
  | .error e => FileOp.fail (e.reworded (e.message ++ " at path " ++ Text.Quoted.quote path.text))

/-- Makes an empty staging file beside the destination, and the directories it lies in. -/
def create (destination : Path) : FileOp IoError Staged := do
  let directory := directoryOf destination
  FileOp.makeDirectories directory
  createIn (← fromRoot directory)

/-- Writes behind what the staging file holds. -/
def append (s : Staged) (content : Bytes) : FileOp IoError Unit :=
  FileOp.change fun fs _ => .ok (fs.appendTo s.number content)

/-- Removes the staging file; one that is gone is no fault. -/
def drop (s : Staged) : FileOp IoError Unit := do
  FileOp.ignore (FileOp.unlink s.path)

/-- Puts the staging file in place.  A destination that no name can be given is an invalid
argument. -/
def persist (s : Staged) (destination : Path) : FileOp IoError Unit :=
  FileOp.change fun fs cwd =>
    if destination.hasNull then .error .invalidArgument else fs.rename cwd s.path destination

/-- Gives the staging file permission bits. -/
def setMode (s : Staged) (mode : Nat) : FileOp IoError Unit :=
  FileOp.change fun fs cwd => fs.setMode cwd s.path mode

/-- Fills the staging file and puts it in place. -/
def fill (content : Bytes) (destination : Path) (s : Staged) : FileOp IoError Unit := do
  s.append content
  s.persist destination

/-- Fills the staging file with the content and the bits of `source` and puts it in place. -/
def copy (source destination : Path) (s : Staged) : FileOp IoError Unit := do
  let content ← FileOp.read source
  s.append content
  s.setMode (← FileOp.stat source).mode
  s.persist destination

/-- Stages a destination for `body`; if `body` fails, the staging file is removed. -/
def during {α : Type} (destination : Path) (body : Staged → FileOp IoError α) : FileOp IoError α := do
  let s ← Staged.create destination
  FileOp.orElseUndo (body s) s.drop

end Staged

namespace FileOp

/-- Replaces `destination` by a file with the given content. -/
def writeAtomic (destination : Path) (content : Bytes) : FileOp IoError Unit :=
  Staged.during destination (Staged.fill content destination)

/-- Replaces `destination` by a copy of `source` with the same permission bits. -/
def copyAtomic (source destination : Path) : FileOp IoError Unit :=
  Staged.during destination (Staged.copy source destination)

end FileOp

end Bootstrap
