import Bootstrap.Digest
import Bootstrap.FileSystem.Staging

/-!
# Artifacts

A compiled program is an artifact.  Its file lies in the build directory of its
package and is named after the entry point; numbered generations of it lie
beside it.  A store resolves names to files under one root, and moves and
removes the files.
-/

namespace Bootstrap

/-- The directory of a package that holds its artifacts. -/
def buildDirectory : String := "build"

/-- What ends the file name of an artifact. -/
def artifactExtension : String := "ofta"

/-- An entry point of a package. -/
structure ArtifactKey where
  package : Path
  binary : String
  deriving DecidableEq, Repr

namespace ArtifactKey

/-- Package and entry point in one text. -/
def label (k : ArtifactKey) : String := k.package.text ++ ":" ++ k.binary

end ArtifactKey

/-- An artifact of a store. -/
structure Artifact where
  key : ArtifactKey
  /-- The number of the generation; the canonical artifact has none. -/
  variant : Option Nat
  /-- The file as seen from the root of the store. -/
  relative : Path
  /-- The file. -/
  path : Path
  deriving DecidableEq, Repr

/-- The name of an artifact without its extension. -/
def artifactStem (binary : String) : Option Nat → String
  | none => binary
  | some n => binary ++ "-" ++ toString n

namespace Artifact

/-- The name without the extension. -/
def stem (a : Artifact) : String := artifactStem a.key.binary a.variant

/-- Whether this is the artifact under its plain name. -/
def isCanonical (a : Artifact) : Bool := a.variant.isNone

end Artifact

/-- The artifacts under one root. -/
structure ArtifactStore where
  root : Path
  deriving DecidableEq, Repr

/-- Why an artifact could not be used. -/
inductive ArtifactError where
  | missing (key : String) (path : Path)
  | read (path : Path) (source : IoError)
  | promote (source target : Path) (cause : IoError)
  | remove (path : Path) (source : IoError)
  deriving DecidableEq, Repr

namespace ArtifactError

/-- The text of the error. -/
def message : ArtifactError → String
  | missing key path => "artifact " ++ key ++ " was not produced at " ++ path.text
  | read path e => "failed to read artifact " ++ path.text ++ ": " ++ e.message
  | promote source target e =>
      "failed to promote " ++ source.text ++ " to " ++ target.text ++ ": " ++ e.message
  | remove path e => "failed to remove artifact " ++ path.text ++ ": " ++ e.message

/-- The texts of the causes, the nearest first. -/
def causes : ArtifactError → List String
  | missing .. => []
  | read _ e | promote _ _ e | remove _ e => [e.message]

end ArtifactError

namespace ArtifactStore

/-- A generation of an artifact, or the canonical one. -/
def resolve (s : ArtifactStore) (key : ArtifactKey) (variant : Option Nat) : Artifact :=
  let relative := (key.package.push buildDirectory).push
    (artifactStem key.binary variant ++ "." ++ artifactExtension)
  ⟨key, variant, relative, s.root.join relative⟩

/-- The canonical artifact. -/
def artifact (s : ArtifactStore) (key : ArtifactKey) : Artifact := s.resolve key none

/-- The `n`-th generation. -/
def generation (s : ArtifactStore) (key : ArtifactKey) (n : Nat) : Artifact :=
  s.resolve key (some n)

end ArtifactStore

namespace Artifact

/-- Whether the artifact is a file. -/
def isPresent {ε : Type} (a : Artifact) : FileOp ε Bool := do
  return (← FileOp.current).isFile (← FileOp.here) a.path

/-- Fails unless the artifact is a file. -/
def require (a : Artifact) : FileOp ArtifactError Unit := do
  if ← a.isPresent then pure () else FileOp.fail (.missing a.key.label a.path)

/-- The content of the file. -/
def content (a : Artifact) : FileOp ArtifactError Bytes :=
  (FileOp.read a.path).mapError (.read a.path)

/-- The digest of the content. -/
def digest (a : Artifact) : FileOp ArtifactError ContentDigest := do
  return ContentDigest.ofBytes (← a.content)

/-- Puts a copy of `a` in the place of `target`. -/
def promote (a target : Artifact) : FileOp ArtifactError Unit := do
  a.require
  (FileOp.copyAtomic a.path target.path).mapError (.promote a.path target.path)

/-- Removes the file. -/
def remove (a : Artifact) : FileOp ArtifactError Unit :=
  (FileOp.unlink a.path).mapError (.remove a.path)

/-- Removes the file if it is there. -/
def discard (a : Artifact) : FileOp ArtifactError Unit := do
  match ← FileOp.attempt (FileOp.unlink a.path) with
  | .ok () => pure ()
  | .error e => if e.isNotFound then pure () else FileOp.fail (.remove a.path e)

/-- Why two streams that are read in step did not come to an end. -/
inductive StreamFault where
  /-- The second stream ended inside a chunk of the first. -/
  | shortRead
  deriving DecidableEq, Repr

/-- Compares two contents chunk by chunk.  `sizes` says how many bytes each read of the first one
gives; a read gives at least one byte while any are left, and at most `limit`.  The second content
is read in chunks of the same length. -/
def compareChunks (limit : Nat) (sizes : Nat → Nat) (turn : Nat) (x y : Bytes) :
    Except StreamFault Bool :=
  if h : x = [] then .ok true
  else
    let n := max 1 (min limit (sizes turn))
    if y.length < (x.take n).length then .error .shortRead
    else if x.take n = y.take n then compareChunks limit sizes (turn + 1) (x.drop n) (y.drop n)
    else .ok false
termination_by x.length
decreasing_by
  have := List.length_pos_iff.2 h
  simp only [List.length_drop]
  omega

/-- The most bytes that one read of a comparison takes. -/
def chunkLimit : Nat := 8192

/-- The entry that the path leads to. -/
def entry (a : Artifact) : FileOp ArtifactError Entry := (FileOp.stat a.path).mapError (.read a.path)

/-- Whether two artifacts of one size have the same bytes.  `sizes` says how many bytes each read of
the first one gives. -/
def sameContent (sizes : Nat → Nat) (a b : Artifact) : FileOp ArtifactError Bool := do
  let x ← a.content
  let y ← b.content
  match compareChunks chunkLimit sizes 0 x y with
  | .ok same => return same
  | .error .shortRead =>
      FileOp.fail (.read b.path (.custom "UnexpectedEof" "failed to fill whole buffer"))

/-- Whether two artifacts have the same bytes.  Sizes are compared first. -/
def identicalBy (sizes : Nat → Nat) (a b : Artifact) : FileOp ArtifactError Bool := do
  let first ← a.entry
  let second ← b.entry
  if first.size ≠ second.size then return false else a.sameContent sizes b

/-- Whether two artifacts have the same bytes.  Every read gives as much as it can. -/
def identical (a b : Artifact) : FileOp ArtifactError Bool :=
  a.identicalBy (fun _ => chunkLimit) b

end Artifact

end Bootstrap
