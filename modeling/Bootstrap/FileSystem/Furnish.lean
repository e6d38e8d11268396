import Bootstrap.FileSystem.Operation

/-!
# Putting files where they are wanted

A file system is furnished item by item.  An item comes with the directories it
lies in, and a file is written in place: what was there before is overwritten, and
a link is followed.
-/

namespace Bootstrap

/-- Something to be put into a file system. -/
inductive Furniture where
  | directory
  | link (target : String)
  /-- A file; without a mode it gets the one that new files get. -/
  | file (content : Bytes) (mode : Option Nat)
  deriving DecidableEq, Repr

namespace FileOp

/-- Makes the directories that `p` lies in. -/
def makeParents (p : Path) : FileOp IoError Unit :=
  match p.parent? with
  | some up => makeDirectories up
  | none => pure ()

/-- How a file is opened that is written from its start. -/
def afresh : FileSystem.Writing := ⟨true, true, FileSystem.usualMask⟩

/-- Writes a file in place. -/
def writeInPlace (p : Path) (content : Bytes) : FileOp IoError Unit := do
  checkPath p
  let (after, opened) ← look fun fs cwd => fs.openToWrite cwd p afresh
  change fun _ _ => .ok after
  match opened with
  | .file number => change fun fs _ => .ok (fs.appendTo number content)
  | _ => pure ()

/-- Puts an item at `p`. -/
def furnish (p : Path) (item : Furniture) : FileOp IoError Unit := do
  makeParents p
  match item with
  | .directory => makeDirectories p
  | .link target => change fun fs cwd => fs.makeLink cwd target p
  | .file content mode =>
      writeInPlace p content
      match mode with
      | some m => change fun fs cwd => fs.setMode cwd p m
      | none => pure ()

/-- Removes what stands at `p`: a directory with everything below it, anything else alone. -/
def demolish (p : Path) : FileOp IoError Unit := do
  checkPath p
  match ← look fun fs cwd => fs.linkStat cwd p with
  | .directory _ => change fun fs cwd => fs.removeTree cwd p
  | _ => unlink p

end FileOp

end Bootstrap
