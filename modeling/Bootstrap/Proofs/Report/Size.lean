import Bootstrap.Proofs.Rounding
import Bootstrap.Report.Size

/-!
# What the text of a size says

A size goes through two roundings on its way to a text: to a double, and to one decimal of
the unit.  Both keep the order, and so does the change of units, since a size below a
unit's end never shows more than that end.

    unit   sizes from   shows at least   shows at most
    B               0              0 B          1023 B
    KB           2^10           1.0 KB       1024.0 KB
    MB           2^20           1.0 MB       1024.0 MB
    GB           2^30           1.0 GB

* `readSize?_print` — a text is read back as its number and its unit;
* `ofBytes_scaled` — what is shown of a size of at least one kilobyte;
* `sizeText_accurate` — **texts are accurate and in the order of the sizes**;
* `sizeText_fits` — **which sizes show 1024 of a unit**.
-/

namespace Bootstrap.Report

open Rounding

variable {n m : ℕ} {unit : SizeUnit}

/-- The number that a decimal writes: digits, and behind a point more of them. -/
def decimal? (text : List Char) : Option ℚ :=
  let whole := text.takeWhile Char.isDigit
  match whole.isEmpty, text.dropWhile Char.isDigit with
  | false, [] => some (Nat.ofDigitChars 10 whole 0 : ℚ)
  | false, '.' :: fraction =>
      if !fraction.isEmpty && fraction.all Char.isDigit then
        some (Nat.ofDigitChars 10 whole 0 +
          Nat.ofDigitChars 10 fraction 0 / 10 ^ fraction.length)
      else none
  | _, _ => none

/-- The unit that a label names. -/
def SizeUnit.ofLabel? (label : List Char) : Option SizeUnit :=
  [byte, kilobyte, megabyte, gigabyte].find? (·.label.toList = label)

/-- The number and the unit that the text of a size shows. -/
def readSize? (text : String) : Option (ℚ × SizeUnit) := do
  let number ← decimal? (text.toList.takeWhile (· ≠ ' '))
  let unit ← SizeUnit.ofLabel? ((text.toList.dropWhile (· ≠ ' ')).drop 1)
  return (number, unit)

/-- The number of bytes that the text of a size stands for. -/
def shownBytes? (text : String) : Option ℚ := (readSize? text).map fun (x, unit) => x * unit.bytes

/-! ### Texts read back -/

theorem isDigit_of_mem_toDigits : ∀ c ∈ Nat.toDigits 10 n, c.isDigit = true := fun _ hc =>
  Nat.isDigit_of_mem_toDigits (by decide) (by decide) hc

/-- Digits in front of another character are all that is taken. -/
theorem takeWhile_toDigits (n : ℕ) (rest : List Char)
    (hrest : rest.head?.all (fun c => !c.isDigit) = true) :
    (Nat.toDigits 10 n ++ rest).takeWhile Char.isDigit = Nat.toDigits 10 n ∧
      (Nat.toDigits 10 n ++ rest).dropWhile Char.isDigit = rest := by
  rw [List.takeWhile_append_of_pos isDigit_of_mem_toDigits,
    List.dropWhile_append_of_pos isDigit_of_mem_toDigits]
  cases rest with
  | nil => simp
  | cons c rest =>
      have hc : c.isDigit = false := by simpa using hrest
      simp [hc]

theorem isEmpty_toDigits (n : ℕ) : (Nat.toDigits 10 n).isEmpty = false := by
  simp [List.isEmpty_eq_false_iff, Nat.toDigits_ne_nil]

theorem decimal?_toDigits (n : ℕ) : decimal? (Nat.toDigits 10 n) = some (n : ℚ) := by
  obtain ⟨htake, hdrop⟩ := takeWhile_toDigits n [] rfl
  rw [List.append_nil] at htake hdrop
  unfold decimal?
  simp only [htake, hdrop, isEmpty_toDigits, Nat.ofDigitChars_ten_toDigits]

/-- One decimal is read as a tenth. -/
theorem decimal?_tenths (t : ℕ) :
    decimal? (Nat.toDigits 10 (t / 10) ++ '.' :: Nat.toDigits 10 (t % 10)) = some (t / 10 : ℚ) := by
  obtain ⟨htake, hdrop⟩ :=
    takeWhile_toDigits (t / 10) ('.' :: Nat.toDigits 10 (t % 10)) rfl
  have hlength : (Nat.toDigits 10 (t % 10)).length = 1 := by
    rw [Nat.toDigits_of_lt_base (Nat.mod_lt t (by decide))]
    rfl
  have hdigits : (Nat.toDigits 10 (t % 10)).all Char.isDigit = true :=
    List.all_eq_true.2 isDigit_of_mem_toDigits
  unfold decimal?
  simp only [htake, hdrop, isEmpty_toDigits, hdigits, hlength, Nat.ofDigitChars_ten_toDigits]
  have hsplit : (t : ℚ) = 10 * (t / 10 : ℕ) + (t % 10 : ℕ) := by
    exact_mod_cast (Nat.div_add_mod t 10).symm
  simp only [Bool.not_false, Bool.and_self, if_true, Option.some.injEq]
  rw [hsplit]
  ring

/-- A text without blanks in front of a label. -/
theorem readSize?_labelled {number : List Char} {x : ℚ} (hnumber : decimal? number = some x)
    (hblank : ∀ c ∈ number, c ≠ ' ') (unit : SizeUnit) :
    readSize? (String.ofList (number ++ ' ' :: unit.label.toList)) = some (x, unit) := by
  have hall : ∀ c ∈ number, decide (c ≠ ' ') = true := fun c hc => decide_eq_true (hblank c hc)
  have hlabel : SizeUnit.ofLabel? unit.label.toList = some unit := by
    cases unit <;> decide
  unfold readSize?
  rw [String.toList_ofList, List.takeWhile_append_of_pos hall, List.dropWhile_append_of_pos hall]
  simp [hnumber, hlabel]

theorem ne_blank_of_mem_toDigits : ∀ c ∈ Nat.toDigits 10 n, c ≠ ' ' := by
  rintro _ hc rfl
  have := isDigit_of_mem_toDigits _ hc
  revert this
  decide

/-- Whole bytes are read back. -/
theorem readSize?_bytes (n : ℕ) : readSize? (toString n ++ " B") = some ((n : ℚ), .byte) := by
  have htext : toString n ++ " B" =
      String.ofList (Nat.toDigits 10 n ++ ' ' :: SizeUnit.byte.label.toList) := by
    rw [← String.toList_inj]
    simp [String.toList_append, SizeUnit.label]
  rw [htext]
  exact readSize?_labelled (decimal?_toDigits n) ne_blank_of_mem_toDigits .byte

/-- Every unit but the first is shown with one decimal. -/
theorem print_eq (t : ℕ) (hunit : unit ≠ .byte) :
    ShownSize.print ⟨t, unit⟩ =
      toString (t / 10) ++ "." ++ toString (t % 10) ++ " " ++ unit.label := by
  cases unit with
  | byte => exact (hunit rfl).elim
  | _ => rfl

/-- **Tenths of a unit are read back.** -/
theorem readSize?_print (t : ℕ) (hunit : unit ≠ .byte) :
    readSize? (ShownSize.print ⟨t, unit⟩) = some ((t / 10 : ℚ), unit) := by
  have htext : ShownSize.print ⟨t, unit⟩ =
      String.ofList ((Nat.toDigits 10 (t / 10) ++ '.' :: Nat.toDigits 10 (t % 10)) ++
        ' ' :: unit.label.toList) := by
    rw [← String.toList_inj, print_eq t hunit]
    simp [String.toList_append]
  rw [htext]
  refine readSize?_labelled (decimal?_tenths t) ?_ unit
  intro c hc
  rcases List.mem_append.1 hc with hc | hc
  · exact ne_blank_of_mem_toDigits c hc
  · rcases List.mem_cons.1 hc with rfl | hc
    · decide
    · exact ne_blank_of_mem_toDigits c hc

/-! ### Units -/

/-- The unit that a size of at least one kilobyte is shown in. -/
def SizeUnit.ofSize (n : ℕ) : SizeUnit :=
  if n < 2 ^ 20 then kilobyte else if n < 2 ^ 30 then megabyte else gigabyte

theorem SizeUnit.bytes_pos (unit : SizeUnit) : 0 < unit.bytes := by
  cases unit <;> decide

theorem SizeUnit.ofSize_ne_byte (n : ℕ) : SizeUnit.ofSize n ≠ .byte := by
  unfold SizeUnit.ofSize
  split
  · nofun
  · split <;> nofun

/-- A size is at least one of its unit. -/
theorem SizeUnit.bytes_ofSize_le (h : 1024 ≤ n) : (SizeUnit.ofSize n).bytes ≤ n := by
  unfold SizeUnit.ofSize
  split
  · exact h
  · split
    · exact Nat.le_of_not_lt ‹_›
    · exact Nat.le_of_not_lt ‹_›

/-- A size that is not in the last unit is below the unit's end. -/
theorem SizeUnit.lt_of_ofSize_ne (h : SizeUnit.ofSize n ≠ .gigabyte) :
    n < 1024 * (SizeUnit.ofSize n).bytes := by
  unfold SizeUnit.ofSize at h ⊢
  split
  · assumption
  · rename_i hkilobyte
    rw [if_neg hkilobyte] at h
    split
    · assumption
    · rename_i hmegabyte
      exact (h (if_neg hmegabyte)).elim

/-- A larger size has the same unit, or one that begins where the smaller size's unit ends. -/
theorem SizeUnit.ofSize_mono (h : n ≤ m) :
    SizeUnit.ofSize n = SizeUnit.ofSize m ∨
      SizeUnit.ofSize n ≠ .gigabyte ∧
        1024 * (SizeUnit.ofSize n).bytes ≤ (SizeUnit.ofSize m).bytes := by
  have hends : 1024 * SizeUnit.kilobyte.bytes ≤ SizeUnit.megabyte.bytes ∧
      1024 * SizeUnit.kilobyte.bytes ≤ SizeUnit.gigabyte.bytes ∧
      1024 * SizeUnit.megabyte.bytes ≤ SizeUnit.gigabyte.bytes := by decide
  unfold SizeUnit.ofSize
  split
  · split
    · exact .inl rfl
    · split
      · exact .inr ⟨nofun, hends.1⟩
      · exact .inr ⟨nofun, hends.2.1⟩
  · rw [if_neg (show ¬ m < 2 ^ 20 by omega)]
    split
    · split
      · exact .inl rfl
      · exact .inr ⟨nofun, hends.2.2⟩
    · rw [if_neg (by omega)]
      exact .inl rfl

theorem nearestDouble_mono (hm : m < 2 ^ 64) (h : n ≤ m) : nearestDouble n ≤ nearestDouble m := by
  have hle : (n : ℚ) ≤ m := by exact_mod_cast h
  exact_mod_cast (rounds_nearestDouble (h.trans_lt hm)).mono (rounds_nearestDouble hm) hle

/-- A number that is a double is not passed by rounding. -/
theorem le_nearestDouble {k : ℕ} (hn : n < 2 ^ 64) (hk : k ≤ 2 ^ 53) (h : k ≤ n) :
    k ≤ nearestDouble n := by
  have hself : nearestDouble k = k := by
    rcases hk.lt_or_eq with hlt | rfl
    · exact nearestDouble_of_lt hlt
    · decide
  calc k = nearestDouble k := hself.symm
    _ ≤ nearestDouble n := nearestDouble_mono hn h

/-- The unit that the rounded size fills is the unit of the size itself: the ends of the units are
doubles. -/
theorem ofDouble_nearestDouble (h : n < 2 ^ 64) :
    SizeUnit.ofDouble (nearestDouble n) = SizeUnit.ofSize n := by
  have hmegabyte : SizeUnit.megabyte.bytes = 2 ^ 20 := by decide
  have hgigabyte : SizeUnit.gigabyte.bytes = 2 ^ 30 := by decide
  unfold SizeUnit.ofDouble SizeUnit.ofSize
  rw [hmegabyte, hgigabyte]
  by_cases hsmall : n < 2 ^ 53
  · rw [nearestDouble_of_lt hsmall]
  · have hlarge := le_nearestDouble h le_rfl (Nat.le_of_not_lt hsmall)
    rw [if_neg (by omega), if_neg (by omega), if_neg (by omega), if_neg (by omega)]

/-! ### What is shown -/

theorem ofBytes_small (h : n < 1024) : sizeText n = toString n ++ " B" := by
  unfold sizeText ShownSize.ofBytes
  rw [if_pos h]
  show toString (10 * n / 10) ++ " " ++ "B" = _
  rw [Nat.mul_div_cancel_left n (by decide), String.append_assoc]
  rfl

/-- **What is shown of a size of at least one kilobyte**: the double, in the unit of the size, and
rounded to a tenth. -/
theorem ofBytes_scaled (h : n < 2 ^ 64) (hlarge : 1024 ≤ n) :
    ShownSize.ofBytes n =
      ⟨nearestDiv (10 * nearestDouble n) (SizeUnit.ofSize n).bytes, SizeUnit.ofSize n⟩ := by
  unfold ShownSize.ofBytes
  rw [if_neg (by omega)]
  simp only [ofDouble_nearestDouble h]

/-- The tenths that are shown of a double in some unit. -/
theorem rounds_tenths (d : ℕ) (unit : SizeUnit) :
    Rounds (IsMultiple (1 / 10)) (d / unit.bytes) (nearestDiv (10 * d) unit.bytes / 10) := by
  have h := rounds_multiple (10 * d) unit.bytes_pos (u := 1 / 10) (by norm_num)
  have hvalue : ((10 * d : ℕ) / unit.bytes * (1 / 10) : ℚ) = d / unit.bytes := by
    push_cast
    ring
  have htenths : (nearestDiv (10 * d) unit.bytes * (1 / 10) : ℚ) =
      nearestDiv (10 * d) unit.bytes / 10 := by
    ring
  rwa [hvalue, htenths] at h

/-- The number that is shown of a size of at least one kilobyte. -/
def shownNumber (n : ℕ) : ℚ :=
  (nearestDiv (10 * nearestDouble n) (SizeUnit.ofSize n).bytes : ℚ) / 10

/-- The text of a size of at least one kilobyte is read back. -/
theorem readSize?_scaled (h : n < 2 ^ 64) (hlarge : 1024 ≤ n) :
    readSize? (sizeText n) = some (shownNumber n, SizeUnit.ofSize n) := by
  unfold sizeText
  rw [ofBytes_scaled h hlarge]
  exact readSize?_print _ (SizeUnit.ofSize_ne_byte n)

theorem rounds_shownNumber (n : ℕ) :
    Rounds (IsMultiple (1 / 10)) (nearestDouble n / (SizeUnit.ofSize n).bytes) (shownNumber n) :=
  rounds_tenths _ _

/-- A whole number of units is a number of tenths. -/
theorem rounds_natCast (k : ℕ) : Rounds (IsMultiple (1 / 10)) k k :=
  .self ⟨10 * k, by push_cast; ring⟩

/-- **At least one unit is shown.** -/
theorem one_le_shownNumber (h : n < 2 ^ 64) (hlarge : 1024 ≤ n) : 1 ≤ shownNumber n := by
  have hbytes : (SizeUnit.ofSize n).bytes ≤ 2 ^ 53 := by
    cases SizeUnit.ofSize n <;> decide
  have hpos : (0 : ℚ) < (SizeUnit.ofSize n).bytes := by exact_mod_cast SizeUnit.bytes_pos _
  have hle : ((1 : ℕ) : ℚ) ≤ nearestDouble n / (SizeUnit.ofSize n).bytes := by
    rw [le_div_iff₀ hpos]
    exact_mod_cast (one_mul _).trans_le
      (le_nearestDouble h hbytes (SizeUnit.bytes_ofSize_le hlarge))
  have := (rounds_natCast 1).mono (rounds_shownNumber n) hle
  exact_mod_cast this

/-- A size that is not in the last unit is a double. -/
theorem nearestDouble_of_ofSize_ne (h : SizeUnit.ofSize n ≠ .gigabyte) : nearestDouble n = n := by
  refine nearestDouble_of_lt ((SizeUnit.lt_of_ofSize_ne h).trans_le ?_)
  revert h
  cases SizeUnit.ofSize n <;> decide

/-- **No more is shown than the end of the unit.** -/
theorem shownNumber_le (h : SizeUnit.ofSize n ≠ .gigabyte) : shownNumber n ≤ 1024 := by
  have hpos : (0 : ℚ) < (SizeUnit.ofSize n).bytes := by exact_mod_cast SizeUnit.bytes_pos _
  have hle : (nearestDouble n / (SizeUnit.ofSize n).bytes : ℚ) ≤ (1024 : ℕ) := by
    rw [div_le_iff₀ hpos, nearestDouble_of_ofSize_ne h]
    exact_mod_cast (SizeUnit.lt_of_ofSize_ne h).le
  have := (rounds_shownNumber n).mono (rounds_natCast 1024) hle
  exact_mod_cast this

/-! ### Order -/

/-- The number of bytes that the text of a size stands for, as a function of the size. -/
theorem shownBytes?_sizeText (h : n < 2 ^ 64) :
    shownBytes? (sizeText n) =
      some (if n < 1024 then (n : ℚ) else shownNumber n * (SizeUnit.ofSize n).bytes) := by
  unfold shownBytes?
  split
  · rename_i hsmall
    rw [ofBytes_small hsmall, readSize?_bytes]
    simp [SizeUnit.bytes]
  · rename_i hlarge
    rw [readSize?_scaled h (Nat.le_of_not_lt hlarge)]
    rfl

/-- Among sizes of at least one kilobyte the order is kept, within a unit and from one to the next. -/
theorem shownNumber_mul_mono (hm : m < 2 ^ 64) (hlarge : 1024 ≤ n) (h : n ≤ m) :
    shownNumber n * (SizeUnit.ofSize n).bytes ≤ shownNumber m * (SizeUnit.ofSize m).bytes := by
  have hpos : (0 : ℚ) < (SizeUnit.ofSize m).bytes := by exact_mod_cast SizeUnit.bytes_pos _
  rcases SizeUnit.ofSize_mono h with hsame | ⟨hne, hends⟩
  · have hn := rounds_shownNumber n
    rw [hsame] at hn ⊢
    refine mul_le_mul_of_nonneg_right (hn.mono (rounds_shownNumber m) ?_) hpos.le
    refine div_le_div_of_nonneg_right ?_ hpos.le
    exact_mod_cast nearestDouble_mono hm h
  · calc shownNumber n * (SizeUnit.ofSize n).bytes
        ≤ 1024 * (SizeUnit.ofSize n).bytes :=
          mul_le_mul_of_nonneg_right (shownNumber_le hne) (by positivity)
      _ ≤ 1 * (SizeUnit.ofSize m).bytes := by
          rw [one_mul]
          exact_mod_cast hends
      _ ≤ shownNumber m * (SizeUnit.ofSize m).bytes :=
          mul_le_mul_of_nonneg_right (one_le_shownNumber hm (hlarge.trans h)) hpos.le

/-- A text shows a size exactly in bytes, or as a number of tenths of a unit that the double nearest to
the size rounds to. -/
structure Accurate (n : ℕ) (text : String) : Prop where
  exact : n < 1024 → text = toString n ++ " B"
  rounded : 1024 ≤ n → ∃ (f : ℚ) (t : ℕ), Rounds IsDouble n f ∧
    Rounds (IsMultiple (1 / 10)) (f / (SizeUnit.ofSize n).bytes) (t / 10) ∧
    text = toString (t / 10) ++ "." ++ toString (t % 10) ++ " " ++ (SizeUnit.ofSize n).label ∧
    readSize? text = some ((t / 10 : ℚ), SizeUnit.ofSize n)

/-- **Sizes are accurate and in order.** -/
theorem sizeText_accurate (hm : m < 2 ^ 64) (h : n ≤ m) :
    Accurate n (sizeText n) ∧
      ∃ x y, shownBytes? (sizeText n) = some x ∧ shownBytes? (sizeText m) = some y ∧ x ≤ y := by
  have hn := h.trans_lt hm
  refine ⟨⟨ofBytes_small, fun hlarge => ?_⟩,
    _, _, shownBytes?_sizeText hn, shownBytes?_sizeText hm, ?_⟩
  · refine ⟨nearestDouble n, _, rounds_nearestDouble hn, rounds_shownNumber n, ?_,
      readSize?_scaled hn hlarge⟩
    unfold sizeText
    rw [ofBytes_scaled hn hlarge]
    exact print_eq _ (SizeUnit.ofSize_ne_byte n)
  · by_cases hsmall : n < 1024
    · rw [if_pos hsmall]
      split
      · exact_mod_cast h
      · rename_i hlarge
        have hlarge := Nat.le_of_not_lt hlarge
        have hbytes : 1024 ≤ (SizeUnit.ofSize m).bytes := by
          have hunit := SizeUnit.ofSize_ne_byte m
          revert hunit
          cases SizeUnit.ofSize m <;> decide
        calc (n : ℚ) ≤ 1 * (SizeUnit.ofSize m).bytes := by
              rw [one_mul]
              exact_mod_cast hsmall.le.trans hbytes
          _ ≤ shownNumber m * (SizeUnit.ofSize m).bytes :=
              mul_le_mul_of_nonneg_right (one_le_shownNumber hm hlarge) (by positivity)
    · rw [if_neg hsmall, if_neg (by omega)]
      exact shownNumber_mul_mono hm (Nat.le_of_not_lt hsmall) h

/-- The last size below a megabyte, and the first size that is no double. -/
theorem sizeText_accurate_far :
    (2 ^ 53 + 1 < 2 ^ 64 ∧ 2 ^ 20 - 1 ≤ 2 ^ 53 + 1) ∧ Accurate (2 ^ 20 - 1) (sizeText (2 ^ 20 - 1)) ∧
      ∃ x y, shownBytes? (sizeText (2 ^ 20 - 1)) = some x ∧
        shownBytes? (sizeText (2 ^ 53 + 1)) = some y ∧ x ≤ y :=
  ⟨⟨by decide, by decide⟩, sizeText_accurate (by decide) (by decide)⟩

/-! ### Units that fit -/

/-- The size is so near below the end of its unit that it is rounded to that end. -/
def RoundsUp (n : ℕ) : Prop :=
  1048525 ≤ n ∧ n < 2 ^ 20 ∨ 1073689396 ≤ n ∧ n < 2 ^ 30

instance (n : ℕ) : Decidable (RoundsUp n) := inferInstanceAs (Decidable (_ ∨ _))

/-- **Which sizes show the end of their unit.** -/
theorem shownNumber_eq_end_iff (h : SizeUnit.ofSize n ≠ .gigabyte) :
    shownNumber n = 1024 ↔ RoundsUp n := by
  have hdouble := nearestDouble_of_ofSize_ne h
  have hle : nearestDiv (10 * n) (SizeUnit.ofSize n).bytes ≤ 10240 :=
    nearestDiv_le (SizeUnit.bytes_pos _) (by have := SizeUnit.lt_of_ofSize_ne h; omega)
  have htenths : shownNumber n = 1024 ↔ nearestDiv (10 * n) (SizeUnit.ofSize n).bytes = 10240 := by
    unfold shownNumber
    rw [hdouble, div_eq_iff (by norm_num)]
    norm_num
    exact_mod_cast Iff.rfl
  rw [htenths]
  obtain ⟨⟨hhigh, hlow⟩, _⟩ := nearestDiv_cases (10 * n) _ (SizeUnit.bytes_pos (SizeUnit.ofSize n))
  unfold RoundsUp
  unfold SizeUnit.ofSize at h hle hhigh hlow ⊢
  by_cases hkilobyte : n < 2 ^ 20
  · rw [if_pos hkilobyte, show SizeUnit.kilobyte.bytes = 1024 from rfl] at *
    omega
  · by_cases hmegabyte : n < 2 ^ 30
    · rw [if_neg hkilobyte, if_pos hmegabyte, show SizeUnit.megabyte.bytes = 1048576 from rfl] at *
      omega
    · rw [if_neg hkilobyte, if_neg hmegabyte] at h
      exact (h rfl).elim

/-- **Which units fit.**  At least one unit is shown, and less than 1024 of any unit but the last,
except for the sizes that are rounded up to the end of their unit. -/
theorem sizeText_fits (h : n < 2 ^ 64) :
    ∃ x unit, readSize? (sizeText n) = some (x, unit) ∧ (unit ≠ .byte → 1 ≤ x) ∧
      (unit ≠ .gigabyte → if RoundsUp n then x = 1024 else x < 1024) := by
  by_cases hsmall : n < 1024
  · refine ⟨n, .byte, by rw [ofBytes_small hsmall, readSize?_bytes], fun hne => (hne rfl).elim,
      fun _ => ?_⟩
    have hno : ¬ RoundsUp n := by
      unfold RoundsUp
      omega
    rw [if_neg hno]
    exact_mod_cast hsmall
  · have hlarge := Nat.le_of_not_lt hsmall
    refine ⟨_, _, readSize?_scaled h hlarge, fun _ => one_le_shownNumber h hlarge, fun hne => ?_⟩
    split
    · exact (shownNumber_eq_end_iff hne).2 ‹_›
    · rename_i hno
      refine lt_of_le_of_ne (shownNumber_le hne) fun heq => hno ?_
      exact (shownNumber_eq_end_iff hne).1 heq

/-- The last size below a gigabyte shows 1024 of the unit below. -/
theorem sizeText_fits_last :
    2 ^ 30 - 1 < 2 ^ 64 ∧ ∃ x unit, readSize? (sizeText (2 ^ 30 - 1)) = some (x, unit) ∧
      (unit ≠ .byte → 1 ≤ x) ∧
      (unit ≠ .gigabyte → if RoundsUp (2 ^ 30 - 1) then x = 1024 else x < 1024) :=
  ⟨by decide, sizeText_fits (by decide)⟩

/-- **Not every size has the largest unit that fits.**  One byte less than a megabyte is shown as 1024
kilobytes. -/
theorem sizeText_overfull :
    sizeText 1048575 = "1024.0 KB" ∧
      ¬ ∀ n < 2 ^ 64, ∀ x unit, readSize? (sizeText n) = some (x, unit) →
        (unit ≠ .gigabyte → x < 1024) ∧ (unit ≠ .byte → 1 ≤ x) := by
  have htext : sizeText 1048575 = "1024.0 KB" := by decide +kernel
  refine ⟨htext, fun hall => ?_⟩
  have hread : readSize? (sizeText 1048575) = some ((10240 / 10 : ℚ), .kilobyte) := by
    have hprint := readSize?_print 10240 (show SizeUnit.kilobyte ≠ .byte by decide)
    rw [htext]
    exact hprint
  have hless := (hall 1048575 (by decide) _ _ hread).1 nofun
  norm_num at hless

end Bootstrap.Report
