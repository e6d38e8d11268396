import Bootstrap.Bytes
import Mathlib.Algebra.Group.Nat.Defs

/-!
# Numbers and digits of bytes

Octets of a fixed width are as many as they should be and give their number back.  Two
hexadecimal digits are written for a byte, always in lower case, and reading them back
gives the byte.

* `Bytes.ofLittleEndian_littleEndian` — octets give the number back, up to their width;
* `Bytes.ofHexDigits?_hexDigits` — **hexadecimal digits give the bytes back**;
* `Bytes.isLowerHex_of_mem_hexDigits` — they are written in one way.
-/

namespace Bootstrap.Bytes

@[simp] theorem length_littleEndian (width value : Nat) :
    (littleEndian width value).length = width := by
  induction width generalizing value with
  | zero => rfl
  | succ width ih => simp [littleEndian, ih]

@[simp] theorem length_bigEndian (width value : Nat) : (bigEndian width value).length = width := by
  rw [bigEndian, List.length_reverse, length_littleEndian]

@[simp] theorem length_zeros (n : Nat) : (zeros n).length = n := List.length_replicate

/-- Octets give the number back, up to their width. -/
theorem ofLittleEndian_littleEndian (width value : Nat) :
    ofLittleEndian (littleEndian width value) = value % 256 ^ width := by
  induction width generalizing value with
  | zero => simp [littleEndian, ofLittleEndian, Nat.mod_one]
  | succ width ih =>
      rw [littleEndian, ofLittleEndian, ih, UInt8.toNat_ofNat']
      calc value % 2 ^ 8 + 256 * (value / 256 % 256 ^ width)
        _ = value % (256 * 256 ^ width) := Nat.mod_mul.symm
        _ = value % 256 ^ (width + 1) := by rw [Nat.pow_succ']

/-- The sixteen digits, as they are written. -/
def IsLowerHex (c : Char) : Prop := ('0' ≤ c ∧ c ≤ '9') ∨ ('a' ≤ c ∧ c ≤ 'f')

instance (c : Char) : Decidable (IsLowerHex c) := inferInstanceAs (Decidable (_ ∨ _))

/-- A digit takes one byte. -/
theorem utf8Size_of_isLowerHex {c : Char} (h : IsLowerHex c) : c.utf8Size = 1 := by
  have hle : c ≤ 'f' := h.elim (fun h => Char.le_trans h.2 (by decide)) And.right
  exact Char.utf8Size_eq_one_iff.2 (UInt32.le_trans hle (by decide))

/-- A digit that is written is one of the sixteen, and it is read back. -/
theorem hexDigit_spec {n : Nat} (h : n < 16) :
    IsLowerHex (hexDigit n) ∧ hexValue? (hexDigit n) = some n := by
  have hall : ∀ n : Fin 16, IsLowerHex (hexDigit n) ∧ hexValue? (hexDigit n) = some n.val := by
    decide
  exact hall ⟨n, h⟩

/-- A byte has two digits. -/
theorem digits_lt (b : UInt8) : b.toNat / 16 < 16 ∧ b.toNat % 16 < 16 := by
  have hbound := b.toNat_lt
  omega

@[simp] theorem length_hexDigits (bytes : Bytes) : (hexDigits bytes).length = 2 * bytes.length := by
  unfold hexDigits
  induction bytes with
  | nil => rfl
  | cons b rest ih =>
      rw [List.flatMap_cons, List.length_append, ih, List.length_cons]
      simp only [List.length_cons, List.length_nil]
      omega

/-- Bytes are written in lower case. -/
theorem isLowerHex_of_mem_hexDigits {c : Char} {bytes : Bytes} (h : c ∈ hexDigits bytes) :
    IsLowerHex c := by
  obtain ⟨b, _, hc⟩ := List.mem_flatMap.1 h
  obtain ⟨hhigh, hlow⟩ := digits_lt b
  rcases List.mem_cons.1 hc with rfl | hc
  · exact (hexDigit_spec hhigh).1
  · obtain rfl := List.mem_singleton.1 hc
    exact (hexDigit_spec hlow).1

/-- **Hexadecimal digits give the bytes back.** -/
theorem ofHexDigits?_hexDigits (bytes : Bytes) : ofHexDigits? (hexDigits bytes) = some bytes := by
  induction bytes with
  | nil => rfl
  | cons b rest ih =>
      obtain ⟨hhigh, hlow⟩ := digits_lt b
      have hbyte : UInt8.ofNat (16 * (b.toNat / 16) + b.toNat % 16) = b := by
        rw [Nat.div_add_mod, UInt8.ofNat_toNat]
      change ofHexDigits? (hexDigit (b.toNat / 16) :: hexDigit (b.toNat % 16) :: hexDigits rest) = _
      rw [ofHexDigits?, (hexDigit_spec hhigh).2, (hexDigit_spec hlow).2, ih]
      exact congrArg (fun b => some (b :: rest)) hbyte

end Bootstrap.Bytes
