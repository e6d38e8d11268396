import Bootstrap.Archive.Gzip
import Bootstrap.Proofs.Bytes

/-!
# Compression loses nothing

What is written as stored blocks is read back, whatever follows it.  A stored block
begins at a whole byte and ends at one, so the reader is never left inside a byte.

* `Inflate.inflate?_store` — the content, and what stood behind the stream;
* `Gzip.unwrap?_wrap` — a member gives its content back.
-/

namespace Bootstrap

namespace Inflate

variable {content rest : Bytes} {out : Array UInt8} {fuel : Nat}

/-- The first three bits of a byte, read from its beginning. -/
theorem bits?_of_whole (b : UInt8) (rest : Bytes) :
    (⟨b :: rest, 0⟩ : BitReader).bit? = some (b.toNat % 2, ⟨b :: rest, 1⟩) ∧
      (⟨b :: rest, 1⟩ : BitReader).bits? 2 =
        some (b.toNat / 2 % 2 + 2 * (b.toNat / 4 % 2), ⟨b :: rest, 3⟩) := by
  constructor
  · rfl
  · simp [BitReader.bits?, BitReader.bit?, Nat.shiftRight_eq_div_pow]

/-- The fields of a stored block behind its first byte. -/
theorem stored_fields (rest : Bytes) (h : content.length ≤ storedLimit) :
    let fields := Bytes.littleEndian 2 content.length ++
      Bytes.littleEndian 2 (0xFFFF - content.length) ++ content ++ rest
    Bytes.ofLittleEndian (fields.take 2) = content.length ∧
      Bytes.ofLittleEndian ((fields.drop 2).take 2) = 0xFFFF - content.length ∧
      (fields.drop 4).take content.length = content ∧
      fields.drop (4 + content.length) = rest := by
  have hlimit : content.length < 256 ^ 2 := Nat.lt_of_le_of_lt h (by decide)
  have hcheck : 0xFFFF - content.length < 256 ^ 2 := Nat.lt_of_le_of_lt (Nat.sub_le _ _) (by decide)
  simp only [List.append_assoc]
  refine ⟨?_, ?_, ?_, ?_⟩
  · rw [List.take_left' (Bytes.length_littleEndian _ _), Bytes.ofLittleEndian_littleEndian,
      Nat.mod_eq_of_lt hlimit]
  · rw [List.drop_left' (Bytes.length_littleEndian _ _),
      List.take_left' (Bytes.length_littleEndian _ _), Bytes.ofLittleEndian_littleEndian,
      Nat.mod_eq_of_lt hcheck]
  · rw [← List.append_assoc, List.drop_left' (by simp), List.take_left' rfl]
  · rw [← List.append_assoc, ← List.append_assoc, List.drop_left' (by simp; omega)]

/-- A stored block is taken as a whole, and the reader stands behind it. -/
theorem blocks?_storedBlock (last : Bool) (h : content.length ≤ storedLimit) :
    blocks? (fuel + 1) out ⟨storedBlock last content ++ rest, 0⟩ =
      if last then some (out ++ content.toArray, ⟨rest, 0⟩)
      else blocks? fuel (out ++ content.toArray) ⟨rest, 0⟩ := by
  obtain ⟨hsize, hcheck, hcontent, hrest⟩ := stored_fields rest h
  have hsum : content.length + (0xFFFF - content.length) = 0xFFFF := by
    unfold storedLimit at h
    omega
  have hblock : storedBlock last content ++ rest =
      (if last then 1 else 0) :: (Bytes.littleEndian 2 content.length ++
        Bytes.littleEndian 2 (0xFFFF - content.length) ++ content ++ rest) := by
    simp [storedBlock]
  rw [hblock, blocks?]
  generalize Bytes.littleEndian 2 content.length ++
    Bytes.littleEndian 2 (0xFFFF - content.length) ++ content ++ rest = fields at *
  have hbits := bits?_of_whole (if last then 1 else 0) fields
  simp only [hbits.1, Option.bind_eq_bind, Option.bind_some, hbits.2]
  cases last <;>
    simp [BitReader.align, hsize, hcheck, hcontent, hrest, hsum]

theorem length_le_store (content : Bytes) : content.length < (store content).length := by
  fun_induction store content with
  | case1 content h => simp [storedBlock]; omega
  | case2 content h ih =>
      rw [List.length_drop] at ih
      simp only [storedBlock, List.length_append, List.length_cons, List.length_take]
      omega

/-- Stored blocks are read one after the other, up to the last one. -/
theorem blocks?_store (hfuel : content.length < fuel) :
    blocks? fuel out ⟨store content ++ rest, 0⟩ = some (out ++ content.toArray, ⟨rest, 0⟩) := by
  induction fuel generalizing content out with
  | zero => omega
  | succ fuel ih =>
      rw [store]
      split
      · rename_i h
        rw [blocks?_storedBlock true h, if_pos rfl]
      · rename_i h
        have htake : (content.take storedLimit).length ≤ storedLimit := by
          rw [List.length_take]
          exact Nat.min_le_left _ _
        have hdrop : (content.drop storedLimit).length < fuel := by
          rw [List.length_drop]
          unfold storedLimit at *
          omega
        rw [List.append_assoc, blocks?_storedBlock false htake, if_neg (by decide), ih hdrop]
        have hparts : (content.take storedLimit).toArray ++ (content.drop storedLimit).toArray =
            content.toArray := by
          rw [List.append_toArray, List.take_append_drop]
        rw [Array.append_assoc, hparts]

/-- **Storing loses nothing**: the content, and what stood behind the stream. -/
theorem inflate?_store (content rest : Bytes) :
    inflate? (store content ++ rest) = some (content, rest) := by
  have hfuel : content.length < 8 * (store content ++ rest).length + 1 := by
    have := length_le_store content
    rw [List.length_append]
    omega
  unfold inflate?
  rw [blocks?_store hfuel]
  simp [BitReader.align]

end Inflate

namespace Gzip

/-- **A member gives its content back.** -/
theorem unwrap?_wrap (content : Bytes) : unwrap? (wrap content) = some content := by
  have hwrap : wrap content =
      0x1F :: 0x8B :: 8 :: 0 :: 0 :: 0 :: 0 :: 0 :: 0 :: 0xFF :: body content := rfl
  have hbody : body content = Inflate.store content ++
      (Bytes.littleEndian 4 (crc32 content).toNat ++ Bytes.littleEndian 4 content.length) :=
    List.append_assoc _ _ _
  have hoptions : dropOptions (UInt8.toNat 0) (body content) = body content := rfl
  rw [hwrap, unwrap?, hoptions, hbody, Inflate.inflate?_store]
  simp

end Gzip

end Bootstrap
