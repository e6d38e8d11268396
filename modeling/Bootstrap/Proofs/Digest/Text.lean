import Bootstrap.Artifact
import Bootstrap.FileSystem.Digest
import Bootstrap.Proofs.Digest.Sha256
import Bootstrap.Proofs.Text.Encoding
import Mathlib.Data.String.Basic

/-!
# The text of a digest

A digest does not depend on how its content was read.  Its text spells the hash in 64
hexadecimal digits of one byte each, so byte 12 of the text is where a character begins and
the text can be cut there.  A text from elsewhere can be wrapped as a digest as well, and
then byte 12 may be inside a character.

    0123456789ab|cdef…      cut behind twelve characters
    0123456789a[é]          no cut: byte 12 is the second one of the last character

* `ContentDigest.ofChunks_eq`, `FileOp.digestBy_eq` — **any reads give the same digest**;
* `ContentDigest.spells_ofBytes` — its text is the hash and can be read back;
* `ContentDigest.Spells.short?` — what is spelled in digits can be cut;
* `ContentDigest.short?_eq_none_iff`, `ContentDigest.cutAt_of_short?` — which texts can be, and
  what is left of them.
-/

namespace Bootstrap

open Digest

/-! ### Reading in pieces -/

/-- The pieces of some content make it up. -/
theorem Bytes.flatten_pieces (limit : Nat) (sizes : Nat → Nat) (turn : Nat) (content : Bytes) :
    (content.pieces limit sizes turn).flatten = content := by
  fun_induction Bytes.pieces limit sizes turn content with
  | case1 turn => rfl
  | case2 turn content hne n ih => rw [List.flatten_cons, ih, List.take_append_drop]

/-- **However a content is cut into chunks, its digest is the same.** -/
theorem ContentDigest.ofChunks_eq (chunks : List Bytes) : ofChunks chunks = ofBytes chunks.flatten :=
  congrArg ofStream (Sha256.Stream.update_flatten .start chunks)

/-- **However a file is read, its digest is that of its content.** -/
theorem FileOp.digestBy_eq (sizes : Nat → Nat) (p : Path) :
    digestBy sizes p = do return .ofBytes (← read p) := by
  unfold digestBy
  simp only [ContentDigest.ofChunks_eq, Bytes.flatten_pieces]

/-- An artifact has the digest of its file. -/
theorem Artifact.digest_eq_digestBy (sizes : Nat → Nat) (a : Artifact) :
    a.digest = (FileOp.digestBy sizes a.path).mapError (.read a.path) := by
  rw [FileOp.digestBy_eq]
  funext cwd fs
  simp only [digest, content, FileOp.mapError, FileOp.run, Bind.bind]
  cases (FileOp.read a.path cwd fs).outcome <;> rfl

namespace ContentDigest

/-! ### The digits of a digest -/

/-- **The text spells a hash**: it consists of 64 hexadecimal digits in lower case, and what they stand
for are the 32 bytes of the hash. -/
structure Spells (d : ContentDigest) (hash : Bytes) : Prop where
  length : d.text.toList.length = 64
  digits : ∀ c ∈ d.text.toList, Bytes.IsLowerHex c
  decodes : Bytes.ofHexDigits? d.text.toList = some hash
  width : hash.length = 32

theorem toList_ofBytes (content : Bytes) :
    (ofBytes content).text.toList = Bytes.hexDigits (Sha256.digest content) :=
  String.toList_ofList

/-- **The text of a digest spells the hash of the content.** -/
theorem spells_ofBytes (content : Bytes) : (ofBytes content).Spells (Sha256.digest content) where
  length := by rw [toList_ofBytes, Bytes.length_hexDigits, Sha256.length_digest]
  digits := by
    intro c hc
    rw [toList_ofBytes] at hc
    exact Bytes.isLowerHex_of_mem_hexDigits hc
  decodes := by rw [toList_ofBytes, Bytes.ofHexDigits?_hexDigits]
  width := Sha256.length_digest content

/-! ### Cutting a text -/

/-- Byte `n` of a text is inside a character: the character begins before it and ends behind it. -/
def Inside (n : Nat) (chars : List Char) : Prop :=
  ∃ before c after, chars = before ++ c :: after ∧
    String.utf8Len before < n ∧ n < String.utf8Len before + c.utf8Size

/-- A character that lies in the first `n` bytes moves what is inside another one. -/
theorem inside_cons_iff {n : Nat} {c : Char} {rest : List Char} (h : c.utf8Size ≤ n) :
    Inside n (c :: rest) ↔ Inside (n - c.utf8Size) rest := by
  constructor
  · rintro ⟨before, d, after, hsplit, hbegin, hend⟩
    rcases List.cons_eq_append_iff.1 hsplit with ⟨rfl, hd⟩ | ⟨before, rfl, hrest⟩
    · obtain rfl : d = c := (List.cons.inj hd).1
      rw [String.utf8Len_nil] at hend
      omega
    · rw [String.utf8Len_cons] at hbegin hend
      exact ⟨before, d, after, hrest, by omega, by omega⟩
  · rintro ⟨before, d, after, rfl, hbegin, hend⟩
    refine ⟨c :: before, d, after, rfl, ?_, ?_⟩ <;> rw [String.utf8Len_cons] <;> omega

/-- **A cut fails exactly inside a character.** -/
theorem cut?_eq_none_iff {budget : Nat} {chars : List Char} :
    cut? budget chars = none ↔ Inside budget chars := by
  induction chars generalizing budget with
  | nil => exact ⟨nofun, fun ⟨_, _, _, hsplit, _⟩ => by simp at hsplit⟩
  | cons c rest ih =>
      rw [cut?]
      split
      case isTrue hzero =>
        refine ⟨nofun, fun ⟨_, _, _, _, hbegin, _⟩ => ?_⟩
        omega
      case isFalse hne =>
        split
        case isTrue hfits => rw [Option.map_eq_map, Option.map_eq_none_iff, ih, inside_cons_iff hfits]
        case isFalse hcrosses =>
          refine ⟨fun _ => ⟨[], c, rest, rfl, ?_, ?_⟩, fun _ => rfl⟩ <;>
            rw [String.utf8Len_nil] <;> omega

/-- What a cut gives is the front of the text, as many bytes of it as there may be. -/
theorem prefix_of_cut? {budget : Nat} {chars front : List Char} (h : cut? budget chars = some front) :
    front <+: chars ∧ String.utf8Len front = min budget (String.utf8Len chars) := by
  induction chars generalizing budget front with
  | nil =>
      cases h
      exact ⟨List.prefix_rfl, (Nat.min_zero budget).symm⟩
  | cons c rest ih =>
      rw [cut?] at h
      split at h
      case isTrue hzero =>
        cases h
        exact ⟨List.nil_prefix, by rw [hzero, Nat.zero_min, String.utf8Len_nil]⟩
      case isFalse hne =>
        split at h
        case isTrue hfits =>
          obtain ⟨more, hmore, rfl⟩ := Option.map_eq_some_iff.1 h
          obtain ⟨hfront, hlen⟩ := ih hmore
          refine ⟨List.cons_prefix_cons.2 ⟨rfl, hfront⟩, ?_⟩
          rw [String.utf8Len_cons, String.utf8Len_cons, hlen]
          omega
        case isFalse hcrosses => cases h

/-- Characters of one byte can be cut anywhere. -/
theorem cut?_of_single {budget : Nat} {chars : List Char} (h : ∀ c ∈ chars, c.utf8Size = 1) :
    cut? budget chars = some (chars.take budget) := by
  induction chars generalizing budget with
  | nil => rw [cut?, List.take_nil]
  | cons c rest ih =>
      have hc : c.utf8Size = 1 := h c List.mem_cons_self
      cases budget with
      | zero => rfl
      | succ budget =>
          rw [cut?, if_neg (Nat.succ_ne_zero budget), if_pos (by omega), hc, Nat.add_sub_cancel,
            ih fun d hd => h d (List.mem_cons_of_mem c hd), List.take_succ_cons]
          rfl

/-! ### Short forms -/

variable {d : ContentDigest} {hash : Bytes} {shown : String}

/-- The first twelve characters of the text of a digest. -/
def front (d : ContentDigest) : String := String.ofList (d.text.toList.take shortLength)

/-- **What is spelled in digits is cut behind twelve characters.** -/
theorem Spells.short? (h : d.Spells hash) : d.short? = some d.front := by
  have hsingle : ∀ c ∈ d.text.toList, c.utf8Size = 1 :=
    fun c hc => Bytes.utf8Size_of_isLowerHex (h.digits c hc)
  rw [ContentDigest.short?, cut?_of_single hsingle]
  rfl

theorem Spells.short (h : d.Spells hash) : d.short = d.front := by
  rw [ContentDigest.short, h.short?]
  rfl

/-- **A text has no short form exactly if it has more than twelve bytes and byte 12 is inside a
character.** -/
theorem short?_eq_none_iff :
    d.short? = none ↔ shortLength < d.text.utf8ByteSize ∧ Inside shortLength d.text.toList := by
  rw [ContentDigest.short?, Option.map_eq_none_iff, cut?_eq_none_iff, ← String.utf8Len_toList]
  constructor
  · rintro ⟨before, c, after, hsplit, hbegin, hend⟩
    refine ⟨?_, before, c, after, hsplit, hbegin, hend⟩
    rw [hsplit, String.utf8Len_append, String.utf8Len_cons]
    omega
  · exact And.right

/-- `shown` is a text cut behind `n` bytes: it has the first `n` bytes of the text, and no longer front
of it has at most as many. -/
structure CutAt (n : Nat) (text shown : String) : Prop where
  isFront : ∃ rest, text = shown ++ rest
  bytes : Text.Utf8.encode shown = (Text.Utf8.encode text).take n
  longest : ∀ front rest, text = front ++ rest → front.utf8ByteSize ≤ n →
    front.utf8ByteSize ≤ shown.utf8ByteSize

/-- A front of a text with as many bytes as there may be is the text cut there. -/
theorem cutAt_of_size {n : Nat} {text shown rest : String} (hsplit : text = shown ++ rest)
    (hsize : shown.utf8ByteSize = min n text.utf8ByteSize) : CutAt n text shown where
  isFront := ⟨rest, hsplit⟩
  bytes := by
    have hshown := Text.Utf8.length_encode shown
    have hrest := Text.Utf8.length_encode rest
    rw [hsplit, String.utf8ByteSize_append] at hsize
    rw [hsplit, Text.Utf8.encode_append, List.take_append, List.take_of_length_le (by omega)]
    -- either nothing is left, or there are `n` bytes already
    rcases Nat.lt_or_ge shown.utf8ByteSize n with hless | hfull
    · have hnil : Text.Utf8.encode rest = [] := List.eq_nil_of_length_eq_zero (by omega)
      rw [hnil, List.take_nil, List.append_nil]
    · rw [Nat.sub_eq_zero_of_le (by omega), List.take_zero, List.append_nil]
  longest := by
    intro front more hfront hle
    have hall : text.utf8ByteSize = front.utf8ByteSize + more.utf8ByteSize := by
      rw [hfront, String.utf8ByteSize_append]
    omega

/-- **A short form is the text cut behind twelve bytes.** -/
theorem cutAt_of_short? (h : d.short? = some shown) : CutAt shortLength d.text shown := by
  obtain ⟨front, hcut, rfl⟩ := Option.map_eq_some_iff.1 h
  obtain ⟨⟨rest, hrest⟩, hlen⟩ := prefix_of_cut? hcut
  have hsplit : d.text = String.ofList front ++ String.ofList rest := by
    rw [← String.ofList_append, hrest, String.ofList_toList]
  refine cutAt_of_size hsplit ?_
  rw [String.utf8ByteSize_ofList, hlen, String.utf8Len_toList]

end ContentDigest

end Bootstrap
