import Bootstrap.Archive.Tar
import Bootstrap.Proofs.Archive.Compression

/-!
# Header blocks

A header block is a row of fields of fixed width.  What is written is read back, if the
name fits its field and the numbers fit theirs: octal digits where these suffice, binary
behind a mark where they do not.

* `readNumber?_number` — a number field gives its number back;
* `length_encode` — a header is one block;
* `readHeader?_encode` — a header is read back, its name up to the first zero.
-/

namespace Bootstrap.Tar

variable {bytes before middle behind : Bytes} {width start n : Nat} {h : Header}

/-! ### Number fields -/

/-- The digits of a number are digits. -/
theorem toNat_of_mem_toDigits {c : Char} (hmem : c ∈ Nat.toDigits 8 n) :
    48 ≤ c.toNat ∧ c.toNat < 56 := by
  have hdigit : ∀ d : Fin 8, 48 ≤ d.val.digitChar.toNat ∧ d.val.digitChar.toNat < 56 := by decide
  induction n using Nat.base_induction 8 (by decide) with
  | single d hd =>
      rw [Nat.toDigits_of_lt_base hd, List.mem_singleton] at hmem
      subst hmem
      exact hdigit ⟨d, hd⟩
  | digit m d hd hm ih =>
      rw [← Nat.toDigits_append_toDigits (by decide) hm hd, Nat.toDigits_of_lt_base hd,
        List.mem_append, List.mem_singleton] at hmem
      rcases hmem with hmem | rfl
      · exact ih hmem
      · exact hdigit ⟨d, hd⟩

/-- The characters of an octal field. -/
def octalChars (width n : Nat) : List Char :=
  List.replicate (width - (Nat.toDigits 8 n).length) '0' ++ Nat.toDigits 8 n

theorem octal_eq (width n : Nat) :
    octal width n = (octalChars width n).map fun c => UInt8.ofNat c.toNat := by
  simp [octal, octalChars]

theorem toNat_of_mem_octalChars {c : Char} (hmem : c ∈ octalChars width n) :
    48 ≤ c.toNat ∧ c.toNat < 56 := by
  rcases List.mem_append.1 hmem with hmem | hmem
  · rw [(List.mem_replicate.1 hmem).2]
    decide
  · exact toNat_of_mem_toDigits hmem

theorem toNat_of_mem_octal {b : UInt8} (hmem : b ∈ octal width n) :
    48 ≤ b.toNat ∧ b.toNat < 56 := by
  rw [octal_eq] at hmem
  obtain ⟨c, hc, rfl⟩ := List.mem_map.1 hmem
  have hrange := toNat_of_mem_octalChars hc
  rw [UInt8.toNat_ofNat', Nat.mod_eq_of_lt (by omega)]
  exact hrange

/-- Octal digits are read as the number that they spell. -/
theorem foldlM_octal (cs : List Char) (hcs : ∀ c ∈ cs, 48 ≤ c.toNat ∧ c.toNat < 56) (acc : Nat) :
    (cs.map fun c => UInt8.ofNat c.toNat).foldlM (fun (acc : Nat) (b : UInt8) =>
        if 48 ≤ b && b ≤ 55 then some (8 * acc + (b.toNat - 48)) else none) acc =
      some (Nat.ofDigitChars 8 cs acc) := by
  induction cs generalizing acc with
  | nil => simp
  | cons c rest ih =>
      obtain ⟨hlow, hhigh⟩ := hcs c List.mem_cons_self
      have hvalue : (UInt8.ofNat c.toNat).toNat = c.toNat := by
        rw [UInt8.toNat_ofNat', Nat.mod_eq_of_lt (by omega)]
      have hdigit : (48 ≤ UInt8.ofNat c.toNat && UInt8.ofNat c.toNat ≤ 55) = true := by
        rw [Bool.and_eq_true, decide_eq_true_iff, decide_eq_true_iff, UInt8.le_iff_toNat_le,
          UInt8.le_iff_toNat_le, hvalue]
        exact ⟨hlow, by simpa using Nat.le_of_lt_succ hhigh⟩
      rw [List.map_cons, List.foldlM_cons, if_pos hdigit, hvalue, Nat.ofDigitChars_cons]
      exact ih (fun d hd => hcs d (List.mem_cons_of_mem _ hd)) _

/-- Zeros behind some bytes do not matter to what stands in front of the first zero. -/
theorem untilZero_append_zeros (bytes : Bytes) (n : Nat) :
    untilZero (bytes ++ Bytes.zeros n) = untilZero bytes := by
  unfold untilZero
  induction bytes with
  | nil => cases n <;> rfl
  | cons b rest ih =>
      rw [List.cons_append, List.takeWhile_cons, List.takeWhile_cons, ih]

theorem untilZero_of_ne (hbytes : ∀ b ∈ bytes, b ≠ 0) : untilZero bytes = bytes := by
  unfold untilZero
  rw [← List.append_nil bytes, List.takeWhile_append_of_pos (by simpa using hbytes)]
  rfl

/-- Octal digits are read back. -/
theorem readNumber?_octal (width n : Nat) : readNumber? (octal width n ++ [0]) = some n := by
  have hdigit : ∀ b ∈ octal width n, b ≠ 0 ∧ b ≠ 32 ∧ b ≠ 0x80 := by
    intro b hb
    have hrange := toNat_of_mem_octal hb
    refine ⟨?_, ?_, ?_⟩ <;>
      · rintro rfl
        revert hrange
        decide
  unfold readNumber?
  split
  · rename_i rest hmark
    have hmem : (0x80 : UInt8) ∈ octal width n ++ [0] := by rw [hmark]; exact List.mem_cons_self
    rcases List.mem_append.1 hmem with hmem | hmem
    · exact ((hdigit _ hmem).2.2 rfl).elim
    · exact absurd (List.mem_singleton.1 hmem) (by decide)
  · have hplain : (untilZero (octal width n ++ [0])).filter (· ≠ 32) = octal width n := by
      rw [show octal width n ++ [0] = octal width n ++ Bytes.zeros 1 from rfl,
        untilZero_append_zeros, untilZero_of_ne fun b hb => (hdigit b hb).1, List.filter_eq_self]
      intro b hb
      simpa using (hdigit b hb).2.1
    rw [hplain, octal_eq, foldlM_octal _ (fun c hc => toNat_of_mem_octalChars hc), octalChars,
      Nat.ofDigitChars_append, Nat.ofDigitChars_replicate_zero, Nat.mul_zero,
      Nat.ofDigitChars_toDigits (by decide) (by decide)]

/-- **A number field gives its number back.** -/
theorem readNumber?_number (hn : n < 256 ^ (width - 1)) : readNumber? (number width n) = some n := by
  unfold number
  split
  · exact readNumber?_octal _ _
  · have hvalue : Bytes.ofLittleEndian (Bytes.bigEndian (width - 1) n).reverse = n := by
      rw [Bytes.bigEndian, List.reverse_reverse, Bytes.ofLittleEndian_littleEndian,
        Nat.mod_eq_of_lt hn]
    exact congrArg some hvalue

theorem length_number (n : Nat) (hwidth : 1 < width) : (number width n).length = width := by
  unfold number
  split
  · rename_i hn
    have hdigits : (Nat.toDigits 8 n).length ≤ width - 1 :=
      (Nat.length_toDigits_le_iff (by decide) (by omega)).2 hn
    simp only [octal, List.length_append, List.length_replicate, List.length_map, List.length_cons,
      List.length_nil]
    omega
  · simp only [List.length_cons, Bytes.bigEndian, List.length_reverse, Bytes.length_littleEndian]
    omega

/-! ### Blocks -/

theorem length_field (hbytes : bytes.length ≤ width) : (field width bytes).length = width := by
  simp only [field, List.length_append, Bytes.length_zeros]
  omega

theorem byteSum_cons (b : UInt8) (rest : Bytes) : byteSum (b :: rest) = b.toNat + byteSum rest := by
  have hstart : ∀ (bytes : Bytes) (start : Nat),
      bytes.foldl (fun sum b => sum + b.toNat) start = start + byteSum bytes := by
    intro bytes
    unfold byteSum
    induction bytes with
    | nil => simp
    | cons c rest ih =>
        intro start
        rw [List.foldl_cons, List.foldl_cons, ih, ih (0 + c.toNat)]
        omega
  exact (hstart rest (0 + b.toNat)).trans (by rw [Nat.zero_add])

theorem byteSum_le (bytes : Bytes) : byteSum bytes ≤ 255 * bytes.length := by
  induction bytes with
  | nil => exact Nat.le_refl 0
  | cons b rest ih =>
      have := b.toNat_lt
      rw [byteSum_cons, List.length_cons]
      omega

namespace Header

/-- The name and the numbers of a header fit their fields. -/
structure Fits (h : Header) : Prop where
  name : h.name.length ≤ nameSize
  mode : h.mode < 256 ^ 7
  size : h.size < 256 ^ 11
  time : h.time < 256 ^ 11

theorem length_front (fits : h.Fits) : h.front.length = 148 := by
  have hname : (field nameSize h.name).length = 100 := length_field fits.name
  simp only [front, List.length_append, hname, length_number _ (show 1 < 8 by decide),
    length_number _ (show 1 < 12 by decide)]

theorem length_back (h : Header) : h.back.length = 356 := by
  have htext : (Text.Utf8.encode "ustar  ").length = 7 := by decide
  simp only [back, List.length_append, List.length_cons, Bytes.length_zeros, htext]

/-- A header is one block. -/
theorem length_encode (fits : h.Fits) : h.encode.length = blockSize := by
  simp only [encode, List.length_append, length_front fits, length_back,
    length_number _ (show 1 < 8 by decide), blockSize]

theorem checksum_lt (fits : h.Fits) : h.checksum < 256 ^ 7 := by
  have hsum := byteSum_le (h.front ++ h.back)
  rw [List.length_append, length_front fits, length_back] at hsum
  unfold checksum
  omega

end Header

/-- A field stands where the fields in front of it end. -/
theorem take_drop_middle (hstart : before.length = start) (hwidth : middle.length = width) :
    ((before ++ (middle ++ behind)).drop start).take width = middle := by
  rw [List.drop_left' hstart, List.take_left' hwidth]

/-- **A header is read back**, its name up to the first zero. -/
theorem readHeader?_encode (fits : h.Fits) :
    readHeader? h.encode = some { h with name := untilZero h.name } := by
  have hname : (field nameSize h.name).length = 100 := length_field fits.name
  have hnumber₈ : ∀ n, (number 8 n).length = 8 := fun n => length_number n (by decide)
  have hnumber₁₂ : ∀ n, (number 12 n).length = 12 := fun n => length_number n (by decide)
  have hfront := Header.length_front fits
  -- What is cut out of the block is the field that was written there.
  have hcut_name : (h.encode.drop 0).take nameSize = field nameSize h.name := by
    simp only [Header.encode, Header.front, List.append_assoc]
    exact List.take_left' hname
  have hcut_mode : (h.encode.drop 100).take 8 = number 8 h.mode := by
    simp only [Header.encode, Header.front, List.append_assoc]
    exact take_drop_middle hname (hnumber₈ _)
  have hcut_size : (h.encode.drop 124).take 12 = number 12 h.size := by
    have hassoc : h.encode = (field nameSize h.name ++ number 8 h.mode ++ number 8 0 ++ number 8 0) ++
        (number 12 h.size ++ (number 12 h.time ++ number 8 h.checksum ++ h.back)) := by
      simp only [Header.encode, Header.front, List.append_assoc]
    rw [hassoc]
    refine take_drop_middle ?_ (hnumber₁₂ _)
    simp only [List.length_append, hname, hnumber₈]
  have hcut_time : (h.encode.drop 136).take 12 = number 12 h.time := by
    have hassoc : h.encode = (field nameSize h.name ++ number 8 h.mode ++ number 8 0 ++ number 8 0 ++
        number 12 h.size) ++ (number 12 h.time ++ (number 8 h.checksum ++ h.back)) := by
      simp only [Header.encode, Header.front, List.append_assoc]
    rw [hassoc]
    refine take_drop_middle ?_ (hnumber₁₂ _)
    simp only [List.length_append, hname, hnumber₈, hnumber₁₂]
  have hcut_sum : (h.encode.drop 148).take 8 = number 8 h.checksum := by
    rw [Header.encode, List.append_assoc]
    exact take_drop_middle hfront (hnumber₈ _)
  have htake : h.encode.take 148 = h.front := by
    rw [Header.encode, List.append_assoc, List.take_left' hfront]
  have hdrop : h.encode.drop 156 = h.back := by
    rw [Header.encode, List.drop_left']
    rw [List.length_append, hfront, hnumber₈]
  have hflag : ((h.encode.drop 156).take 1).headD 0 = h.flag := by
    rw [hdrop]
    rfl
  have hsum : byteSum (h.encode.take 148 ++ h.encode.drop 156) + 8 * 32 = h.checksum := by
    rw [htake, hdrop, Header.checksum]
  have hchecksum : readNumber? (number 8 h.checksum) = some h.checksum :=
    readNumber?_number (Header.checksum_lt fits)
  have hmode : readNumber? (number 8 h.mode) = some h.mode := readNumber?_number fits.mode
  have hsize : readNumber? (number 12 h.size) = some h.size := readNumber?_number fits.size
  have htime : readNumber? (number 12 h.time) = some h.time := readNumber?_number fits.time
  unfold readHeader?
  simp only [hcut_name, hcut_mode, hcut_size, hcut_time, hcut_sum, hflag, hsum, hchecksum, hmode,
    hsize, htime, Header.length_encode fits, field, untilZero_append_zeros, Option.bind_eq_bind,
    Option.bind_some, true_and, if_true]
  rfl

end Bootstrap.Tar
