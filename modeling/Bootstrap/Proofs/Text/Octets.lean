import Bootstrap.Proofs.FileSystem.Steps
import Bootstrap.Proofs.Text.Decoding
import Bootstrap.Text.Raw

/-!
# Texts as their bytes

A text of the program that is handed to the system is there the text of its bytes.  The
way back gives it again, and since an ASCII character is one byte that no other character
holds, cutting the bytes at one is cutting the text at it.

* `Raw.path_ofString` — a path that is handed over is the same path;
* `Raw.splitOn_ofChars` — **cutting the bytes is cutting the text**.
-/

namespace Bootstrap.Raw

variable {c d : Char} {cs ds : List Char}

/-- The bytes of some characters, as a text. -/
def ofChars (cs : List Char) : Raw := ofBytes (cs.flatMap String.utf8EncodeChar)

theorem ofString_eq (s : String) : ofString s = ofChars s.toList := rfl

@[simp] theorem ofChars_nil : ofChars [] = [] := rfl

theorem ofChars_append (cs ds : List Char) : ofChars (cs ++ ds) = ofChars cs ++ ofChars ds := by
  unfold ofChars ofBytes
  rw [List.flatMap_append, List.map_append]

theorem ofChars_eq_nil_iff : ofChars cs = [] ↔ cs = [] := by
  cases cs with
  | nil => simp
  | cons c rest => simp [ofChars, ofBytes, String.utf8EncodeChar_ne_nil]

theorem toNat_ofByte (b : UInt8) : (Char.ofNat b.toNat).toNat = b.toNat := by
  have hbound : b.toNat < 256 := b.toNat_lt
  have hvalid : b.toNat.isValidChar := .inl (by omega)
  rw [Char.ofNat, dif_pos hvalid]
  rfl

theorem toBytes_ofBytes (bytes : Bytes) : toBytes (ofBytes bytes) = bytes := by
  unfold toBytes ofBytes
  rw [List.map_map]
  conv_rhs => rw [← List.map_id bytes]
  refine List.map_congr_left fun b _ => ?_
  rw [Function.comp_apply, toNat_ofByte, UInt8.ofNat_toNat, id]

/-- **A path that is handed over is the same path.** -/
theorem path_ofString (s : String) : (ofString s).path = ⟨s⟩ := by
  have hread : Text.Utf8.decodeChars? (Text.Utf8.encode s) = some s.toList :=
    Text.Utf8.decodeChars?_eq_some_iff.2 rfl
  have hshown := Text.Utf8.toList_decodeLossy_of_some hread
  unfold path toString ofString
  rw [toBytes_ofBytes, String.toList_inj.1 hshown]

theorem path_ofChars (cs : List Char) : (ofChars cs).path = Path.ofChars cs := by
  have hpath := path_ofString (String.ofList cs)
  rwa [ofString_eq, String.toList_ofList] at hpath

/-- An ASCII character is one byte. -/
theorem ofChars_cons_of_ascii (hd : d.toNat < 128) : ofChars (d :: ds) = d :: ofChars ds := by
  have hbyte : String.utf8EncodeChar d = [UInt8.ofNat d.toNat] := by
    have hvalue : d.val.toNat < 128 := hd
    unfold String.utf8EncodeChar
    simp only
    rw [if_pos (by omega)]
    rfl
  have hback : Char.ofNat (UInt8.ofNat d.toNat).toNat = d := by
    rw [UInt8.toNat_ofNat', Nat.mod_eq_of_lt (by omega), Char.ofNat_toNat]
  unfold ofChars
  rw [List.flatMap_cons, hbyte, ofBytes, List.map_append, List.map_singleton, hback]
  rfl

/-- No other character holds the byte of an ASCII character. -/
theorem mem_encodeChar_of_ascii {b : UInt8} (hb : b.toNat < 128)
    (hmem : b ∈ String.utf8EncodeChar c) : c.toNat = b.toNat := by
  change c.val.toNat = b.toNat
  unfold String.utf8EncodeChar at hmem
  simp only at hmem
  -- A character of one byte is that byte; in the others every byte has its highest bit set.
  repeat' split at hmem
  all_goals
    simp only [List.mem_cons, List.not_mem_nil, or_false] at hmem
    rcases hmem with rfl | rfl | rfl | rfl
  all_goals
    simp only [UInt8.toNat_ofNat'] at hb ⊢
    omega

theorem mem_ofChars_of_ascii (hd : d.toNat < 128) : d ∈ ofChars cs ↔ d ∈ cs := by
  unfold ofChars ofBytes
  constructor
  · intro hmem
    obtain ⟨b, hb, rfl⟩ := List.mem_map.1 hmem
    obtain ⟨c, hc, hb⟩ := List.mem_flatMap.1 hb
    rw [toNat_ofByte] at hd
    have hvalue := mem_encodeChar_of_ascii hd hb
    rwa [← hvalue, Char.ofNat_toNat]
  · intro hmem
    obtain ⟨front, rest, rfl⟩ := List.append_of_mem hmem
    have happend := ofChars_append front (d :: rest)
    rw [ofChars_cons_of_ascii hd] at happend
    change d ∈ ofChars (front ++ d :: rest)
    rw [happend]
    simp

theorem ofChars_intercalate (hd : d.toNat < 128) (parts : List (List Char)) :
    ofChars ([d].intercalate parts) = [d].intercalate (parts.map ofChars) := by
  induction parts with
  | nil => rfl
  | cons part rest ih =>
      cases rest with
      | nil => simp
      | cons next rest =>
          rw [List.intercalate_cons_cons, ofChars_append, ofChars_append, ih,
            ofChars_cons_of_ascii hd, ofChars_nil]
          simp only [List.map_cons, List.intercalate_cons_cons]

/-- **Cutting the bytes is cutting the text**, at an ASCII character. -/
theorem splitOn_ofChars (hd : d.toNat < 128) (cs : List Char) :
    (ofChars cs).splitOn d = (cs.splitOn d).map ofChars := by
  have hwhole := ofChars_intercalate hd (cs.splitOn d)
  rw [List.intercalate_splitOn] at hwhole
  rw [hwhole]
  refine List.splitOn_intercalate d ?_ (by simp [List.splitOn_ne_nil])
  intro part hpart
  obtain ⟨stretch, hstretch, rfl⟩ := List.mem_map.1 hpart
  rw [mem_ofChars_of_ascii hd]
  exact Path.not_mem_of_mem_splitOn hstretch

end Bootstrap.Raw
