import Bootstrap.Digest
import Bootstrap.FileSystem.Operation

/-!
# Digests of files

A file is not taken up at once: its bytes go through the running hash in the pieces that
single reads give, and the digest is that of the stream behind the last one.
-/

namespace Bootstrap

namespace Bytes

/-- The pieces that reads of some content give.  `sizes` says how many bytes each read gives; a read
gives at least one byte while any are left, and at most `limit`. -/
def pieces (limit : Nat) (sizes : Nat → Nat) (turn : Nat) (content : Bytes) : List Bytes :=
  if h : content = [] then []
  else
    let n := max 1 (min limit (sizes turn))
    content.take n :: pieces limit sizes (turn + 1) (content.drop n)
termination_by content.length
decreasing_by
  have := List.length_pos_iff.2 h
  simp only [List.length_drop]
  omega

end Bytes

namespace FileOp

/-- The most bytes that one read of a file that is digested takes. -/
def digestLimit : Nat := 8192

/-- The digest of the file that `p` leads to.  `sizes` says how many bytes each read gives. -/
def digestBy (sizes : Nat → Nat) (p : Path) : FileOp IoError ContentDigest := do
  let content ← read p
  return .ofChunks (content.pieces digestLimit sizes 0)

/-- The digest of the file that `p` leads to.  Every read gives as much as it can. -/
def digest (p : Path) : FileOp IoError ContentDigest := digestBy (fun _ => digestLimit) p

end FileOp

end Bootstrap
