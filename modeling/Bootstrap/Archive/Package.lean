import Bootstrap.Archive.Gzip
import Bootstrap.Archive.Tar
import Bootstrap.Config
import Bootstrap.Session

/-!
# The distribution archive

The archive holds the toolchain binary and some source trees.  Every tree is
listed from its root downwards, the names in a directory in byte order, so the
same inputs give the same archive.

    inputs there?  --no-->  nothing is touched
         | yes
    stage beside the output, add member after member, put in place

The output may lie inside a packaged tree.  A path that is, in absolute form, the
output or the staging file is left out of the listing.
-/

namespace Bootstrap

/-- Why an archive was not written. -/
inductive PackageError where
  /-- An input is not there; nothing was written. -/
  | missingInput (path : Path)
  /-- A tree could not be walked; `place` is where that showed. -/
  | walk (path : Path) (place : Path) (source : IoError)
  | write (path : Path) (source : IoError)
  deriving DecidableEq, Repr

namespace PackageError

/-- The text of a failed walk. -/
def walkText (place : Path) (e : IoError) : String :=
  "IO error for operation on " ++ place.text ++ ": " ++ e.message

/-- The text of the error. -/
def message : PackageError → String
  | missingInput path => "cannot package missing input: " ++ path.text
  | walk path place e => "failed to walk " ++ path.text ++ ": " ++ walkText place e
  | write path e => "failed to write archive " ++ path.text ++ ": " ++ e.message

/-- The texts of the causes, the nearest first. -/
def causes : PackageError → List String
  | missingInput _ => []
  | walk _ place e => [walkText place e, e.message]
  | write _ e => [e.message]

end PackageError

/-- What goes into an archive and where it is written. -/
structure ArchiveSpec where
  /-- The toolchain binary. -/
  executable : Path
  /-- What the trees are relative to. -/
  root : Path
  /-- The source trees, stored under these names. -/
  trees : List Path
  output : Path
  deriving DecidableEq, Repr

/-- What was written. -/
structure ArchiveReport where
  path : Path
  /-- The number of members. -/
  entries : Nat
  /-- The size of the file. -/
  bytes : Nat
  digest : ContentDigest
  deriving DecidableEq, Repr

/-- Something found on a walk through a tree. -/
structure Found where
  /-- Where it is. -/
  path : Path
  /-- Its name in the archive. -/
  name : Path
  /-- Whether it is itself a directory, and not a link to one. -/
  isDirectory : Bool
  deriving DecidableEq, Repr

namespace ArchiveSpec

/-- The usual archive of a configuration. -/
def ofConfig (c : Config) (executable : Path) (output : Option Path) : ArchiveSpec where
  executable := executable
  root := c.root
  trees := c.sourceTrees
  output := output.getD (c.root.push Layout.archiveName)

/-- The first input that is not there: the binary, or a tree that is no directory. -/
def missingInput? (spec : ArchiveSpec) (fs : FileSystem) (cwd : Location) : Option Path :=
  if fs.isFile cwd spec.executable then
    spec.trees.find? fun tree => !fs.isDirectory cwd (spec.root.join tree)
  else some spec.executable

end ArchiveSpec

namespace FileOp

/-- A path made absolute.  An empty one cannot be. -/
def absolute (p : Path) : FileOp IoError Path := do
  if p.text.isEmpty then
    fail (.custom "InvalidInput" "cannot make an empty path absolute")
  else if p.isAbsolute then return p.absoluteFrom ⟨"/"⟩
  else return p.absoluteFrom (← look FileSystem.currentDirectory)

end FileOp

namespace Tree

/-- Adds the names on the way down to a path. -/
def below (base : Path) (names : Location) : Path := names.foldl Path.push base

/-- The name of something in a tree; the tree's own name ends in a slash. -/
def nameIn (tree : Path) (names : Location) : Path :=
  tree.push (String.intercalate "/" names)

/-- Puts something found in front of the first that it precedes. -/
def insert (x : Location × Entry) : List (Location × Entry) → List (Location × Entry)
  | [] => [x]
  | y :: rest => if Location.precedes x.1 y.1 then x :: y :: rest else y :: insert x rest

/-- Everything in the tree at `place`, from its root downwards and in byte order.  Comparing ways
down name by name puts a directory in front of what it holds. -/
def listing (fs : FileSystem) (place : Location) : List (Location × Entry) :=
  (fs.below place).foldr insert []

/-- What a walk through `tree`, which stands at the absolute path `base`, finds.  A link at the
root is followed, links below are not. -/
def walk (tree base : Path) (fs : FileSystem) (cwd : Location) : Except Errno (List Found) := do
  let place ← fs.locate cwd base
  let rootEntry ← fs.linkStat cwd base
  return ⟨base, nameIn tree [], rootEntry.isDirectory⟩ ::
    (listing fs place).map fun (names, entry) =>
      ⟨below base names, nameIn tree names, entry.isDirectory⟩

end Tree

namespace FileOp

/-- The error of a failed look at `path`, which is named in it. -/
def metadataError (path : Path) (e : IoError) : IoError :=
  e.reworded (e.message ++ " when getting metadata for " ++ path.text)

/-- The member for what `path` leads to, under a name.  A device or a pipe would be stored under
the path where it was found, which is absolute, and so it cannot be stored. -/
def member (path name : Path) : FileOp IoError Tar.Member := do
  let entry ← (look fun fs cwd => fs.stat cwd path).mapError (metadataError path)
  if entry.isFile then
    return ⟨name, .file, entry.isExecutable, ← look fun fs cwd => fs.read cwd path⟩
  else if entry.isDirectory then return ⟨name, .directory, true, []⟩
  else fail (.custom "Other" (⟨.absolute, []⟩ : Tar.NameError).message)

/-- The blocks of a member for what `path` leads to. -/
def memberBlocks (path name : Path) : FileOp IoError Bytes := do
  let m ← member path name
  match m.encode with
  | .ok blocks => return blocks
  | .error e => fail (.custom "Other" e.message)

end FileOp

namespace ArchiveSpec

variable {σ : Type}

/-- The part of the program that speaks here. -/
def logSource : String := "oftb_bootstrap_lib::package"

/-- A step whose failure is a failure to write the archive. -/
def writing {α : Type} (spec : ArchiveSpec) (op : FileOp IoError α) : Task σ PackageError α :=
  Task.onFiles (op.mapError (.write spec.output))

/-- The blocks of what a walk found, one after the other. -/
def foundBlocks (spec : ArchiveSpec) : List Found → Task σ PackageError (List Bytes)
  | [] => pure []
  | found :: rest => do
      let blocks ← spec.writing (FileOp.memberBlocks found.path found.name)
      Task.log .debug logSource "archived" [("entry", found.name.text)]
      return blocks :: (← foundBlocks spec rest)

/-- What a walk through `tree` finds, without the paths in `skip`. -/
def treeFound (spec : ArchiveSpec) (skip : List Path) (tree : Path) :
    Task σ PackageError (List Found) := do
  let base ← spec.writing (FileOp.absolute (spec.root.join tree))
  let found ← Task.onFiles ((FileOp.look (Tree.walk tree base)).mapError (.walk base base))
  return found.filter fun f => !skip.any f.path.sameComponents

/-- The blocks of every tree. -/
def treeBlocks (spec : ArchiveSpec) (skip : List Path) :
    List Path → Task σ PackageError (List Bytes)
  | [] => pure []
  | tree :: rest => do
      let blocks ← spec.foundBlocks (← spec.treeFound skip tree)
      return blocks ++ (← treeBlocks spec skip rest)

/-- Fills the staging file and puts it in place. -/
def fill (spec : ArchiveSpec) (staged : Staged) : Task σ PackageError ArchiveReport := do
  spec.writing (staged.append Gzip.header)
  let program ← spec.writing (FileOp.memberBlocks spec.executable ⟨Layout.toolchainName⟩)
  let output ← spec.writing (FileOp.absolute spec.output)
  let own ← spec.writing (FileOp.absolute staged.path)
  let blocks ← spec.treeBlocks [output, own] spec.trees
  let content := (program :: blocks).flatten ++ Tar.trailer
  spec.writing (staged.append (Gzip.body content))
  spec.writing (staged.persist spec.output)
  let size := (← spec.writing (FileOp.stat spec.output)).size
  let digest := ContentDigest.ofBytes (← spec.writing (FileOp.read spec.output))
  let entries := blocks.length + 1
  Task.log .info logSource "archive written"
    [("path", spec.output.text), ("entries", toString entries), ("bytes", toString size)]
  return ⟨spec.output, entries, size, digest⟩

/-- Writes the archive.  All inputs are looked for before anything is written, and a staging file
that does not come to its place is removed. -/
def make (spec : ArchiveSpec) : Task σ PackageError ArchiveReport := do
  match spec.missingInput? (← Task.files) (← Task.here) with
  | some path => Task.fail (.missingInput path)
  | none => do
      let staged ← spec.writing (Staged.create spec.output)
      (spec.fill staged).orElseUndo (spec.writing staged.drop)

end ArchiveSpec

end Bootstrap
