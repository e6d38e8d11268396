import Bootstrap.FileSystem.Calls

/-!
# File operations

An operation is a sequence of calls on a file system, seen from a current
directory.  Running it gives its outcome, the file system it leaves, and every
file system in between, so a statement about *any instant* of an operation is a
statement about a list.
-/

namespace Bootstrap

variable {ε ε' α β : Type}

/-- A run of an operation. -/
structure Ran (ε α : Type) where
  outcome : Except ε α
  /-- The file system at the end. -/
  files : FileSystem
  /-- The file systems after each call, in order. -/
  seen : List FileSystem

/-- An operation on files from a current directory, which may fail with an `ε`. -/
def FileOp (ε α : Type) : Type := Location → FileSystem → Ran ε α

namespace FileOp

/-- Runs the operation. -/
def run (op : FileOp ε α) (cwd : Location) (fs : FileSystem) : Ran ε α := op cwd fs

instance : Monad (FileOp ε) where
  pure a := fun _ fs => ⟨.ok a, fs, []⟩
  bind op next := fun cwd fs =>
    let first := op.run cwd fs
    match first.outcome with
    | .error e => ⟨.error e, first.files, first.seen⟩
    | .ok a =>
        let second := (next a).run cwd first.files
        ⟨second.outcome, second.files, first.seen ++ second.seen⟩

/-- Stops with an error. -/
def fail (e : ε) : FileOp ε α := fun _ fs => ⟨.error e, fs, []⟩

/-- The current directory. -/
def here : FileOp ε Location := fun cwd fs => ⟨.ok cwd, fs, []⟩

/-- The file system as it stands. -/
def current : FileOp ε FileSystem := fun _ fs => ⟨.ok fs, fs, []⟩

/-- A call that looks without changing anything. -/
def look (call : FileSystem → Location → Except Errno α) : FileOp IoError α := fun cwd fs =>
  match call fs cwd with
  | .ok a => ⟨.ok a, fs, []⟩
  | .error e => ⟨.error (.os e), fs, []⟩

/-- A call that changes the file system; a failed call changes nothing. -/
def change (call : FileSystem → Location → Except Errno FileSystem) : FileOp IoError Unit :=
    fun cwd fs =>
  match call fs cwd with
  | .ok after => ⟨.ok (), after, [after]⟩
  | .error e => ⟨.error (.os e), fs, []⟩

/-- Runs an operation and hands its outcome on instead of stopping. -/
def attempt (op : FileOp ε α) : FileOp ε' (Except ε α) := fun cwd fs =>
  let r := op.run cwd fs
  ⟨.ok r.outcome, r.files, r.seen⟩

/-- Runs an operation, whatever its outcome. -/
def ignore (op : FileOp ε α) : FileOp ε' Unit := do
  let _ ← attempt op

/-- Runs `op`; if it fails, runs `undo`, whatever that comes to, and stops with the first error. -/
def orElseUndo (op : FileOp ε α) (undo : FileOp ε Unit) : FileOp ε α := do
  match ← attempt op with
  | .ok a => return a
  | .error e => do
      ignore undo
      fail e

/-- The same operation with its errors seen in another light. -/
def mapError (f : ε → ε') (op : FileOp ε α) : FileOp ε' α := fun cwd fs =>
  let r := op.run cwd fs
  ⟨r.outcome.mapError f, r.files, r.seen⟩

/-- Refuses a path that no call can be given. -/
def checkPath (p : Path) : FileOp IoError Unit := if p.hasNull then fail .nullInPath else pure ()

/-- Reads the whole file that `p` leads to. -/
def read (p : Path) : FileOp IoError Bytes := do
  checkPath p
  look fun fs cwd => fs.read cwd p

/-- The entry that `p` leads to. -/
def stat (p : Path) : FileOp IoError Entry := do
  checkPath p
  look fun fs cwd => fs.stat cwd p

/-- Removes the entry `p`. -/
def unlink (p : Path) : FileOp IoError Unit := do
  checkPath p
  change fun fs cwd => fs.unlink cwd p

/-- Makes the directory `p`. -/
def makeDirectory (p : Path) : FileOp IoError Unit := do
  checkPath p
  change fun fs cwd => fs.makeDirectory cwd p FileSystem.commonMode

end FileOp

namespace Path

/-- A path and its parents, outwards; `fuel` bounds their number. -/
def ancestorsWithin : (fuel : Nat) → Path → List Path
  | 0, _ => []
  | fuel + 1, p =>
      p :: match p.parent? with
        | some up => ancestorsWithin fuel up
        | none => []

/-- A path and its parents, outwards.  Each parent has fewer characters than its child. -/
def ancestors (p : Path) : List Path := ancestorsWithin (p.chars.length + 1) p

end Path

namespace FileOp

/-- Makes the first directory of a list of ancestors, after making those behind it if they are
missing.  A directory that is already there is as good as a new one. -/
def makeAncestors : List Path → FileOp IoError Unit
  | [] => fail (.custom "Uncategorized" "failed to create whole tree")
  | p :: up =>
      if p.text.isEmpty then pure ()
      else do
        match ← attempt (makeDirectory p) with
        | .ok () => pure ()
        | .error e =>
            if e.isNotFound then do
              makeAncestors up
              settle p (← attempt (makeDirectory p))
            else settle p (.error e)
where
  /-- Accepts a failed attempt to make a directory that is there. -/
  settle (p : Path) : Except IoError Unit → FileOp IoError Unit
    | .ok () => pure ()
    | .error e => do
        if (← current).isDirectory (← here) p then pure () else fail e

/-- Makes the directory `p` and those it lies in. -/
def makeDirectories (p : Path) : FileOp IoError Unit := makeAncestors p.ancestors

end FileOp

end Bootstrap
