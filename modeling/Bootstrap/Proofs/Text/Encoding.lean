import Bootstrap.Text.Utf8

/-!
# The bytes of a text

The bytes of a text are those that the text consists of, so they are as many as its size, they
lie side by side like the parts of the text, and they determine it.

* `Text.Utf8.length_encode` — their number;
* `Text.Utf8.encode_append` — the bytes of the parts;
* `Text.Utf8.encode_inj` — **the bytes of a text determine it**.
-/

namespace Bootstrap.Text.Utf8

variable {text other : String}

theorem encode_append (text other : String) : encode (text ++ other) = encode text ++ encode other := by
  simp [encode]

/-- The bytes of a text are those that the text consists of. -/
theorem toByteArray_encode (text : String) : (encode text).toByteArray = text.toByteArray := by
  have hchars : text.toByteArray = text.toList.utf8Encode := by
    rw [← String.toByteArray_ofList, String.ofList_toList]
  rw [hchars]
  rfl

theorem length_encode (text : String) : (encode text).length = text.utf8ByteSize := by
  rw [← List.size_toByteArray, toByteArray_encode, String.size_toByteArray]

/-- **The bytes of a text determine it.** -/
theorem encode_inj : encode text = encode other ↔ text = other := by
  constructor
  · intro h
    rw [← String.toByteArray_inj, ← toByteArray_encode, ← toByteArray_encode, h]
  · rintro rfl
    rfl

end Bootstrap.Text.Utf8
