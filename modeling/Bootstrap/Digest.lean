import Bootstrap.Digest.Sha256
import Bootstrap.Text.Utf8

/-!
# Content digests

A digest is the SHA-256 of some content in lowercase hexadecimal.  Reports carry
the whole text; log lines show its first twelve bytes.
-/

namespace Bootstrap

/-- A digest in text form. -/
structure ContentDigest where
  text : String
  deriving DecidableEq, Repr

namespace ContentDigest

/-- The bytes of a digest that log lines show. -/
def shortLength : Nat := 12

/-- The hash of a finished stream as text. -/
def ofStream (s : Digest.Sha256.Stream) : ContentDigest :=
  ⟨String.ofList (Bytes.hexDigits s.finish)⟩

/-- The digest of some content. -/
def ofBytes (content : Bytes) : ContentDigest :=
  ofStream (Digest.Sha256.Stream.start.update content)

/-- The digest of content that is read in chunks. -/
def ofChunks (chunks : List Bytes) : ContentDigest :=
  ofStream (chunks.foldl Digest.Sha256.Stream.update .start)

/-- Takes whole characters from the front until exactly `budget` bytes are taken or the text ends;
`none` if a character crosses that point. -/
def cut? : (budget : Nat) → List Char → Option (List Char)
  | _, [] => some []
  | budget, c :: rest =>
      if budget = 0 then some []
      else if c.utf8Size ≤ budget then (c :: ·) <$> cut? (budget - c.utf8Size) rest
      else none

/-- The first twelve bytes of the text, or all of a shorter one; `none` if that point is inside a
character. -/
def short? (d : ContentDigest) : Option String :=
  (cut? shortLength d.text.toList).map String.ofList

/-- The short form of a digest whose text is plain ASCII, as every digest of some content is. -/
def short (d : ContentDigest) : String := d.short?.getD d.text

end ContentDigest

end Bootstrap
