import Bootstrap.Text.Quoted
import Mathlib.Data.List.Basic

/-!
# Quoted text read back

A quoted text is read back whatever characters are shown as themselves, by a reader that does not
know which these are.  It works because every escape begins with a backslash, which never stands
for itself, and because an escape by number ends in a brace, which is no digit.

* `hexNumber?_toDigits` — hexadecimal digits are read as the number that they write;
* `readBody?_escape` — one character, whatever stands behind it;
* `decode?_encode` — **reading gives the text back**;
* `newline_not_mem_encode` — a quoted text stands on one line.
-/

namespace Bootstrap.Text.Quoted

variable {shown : Char → Bool} {c : Char} {n : Nat}

/-! ### Escapes by number -/

/-- A digit has its value. -/
theorem hexValue?_digitChar {d : Nat} (hd : d < 16) : Bytes.hexValue? d.digitChar = some d := by
  have hall : ∀ d : Fin 16, Bytes.hexValue? d.val.digitChar = some d.val := by decide
  exact hall ⟨d, hd⟩

/-- The digits of a number are digits. -/
theorem hexValue?_of_mem_toDigits (hmem : c ∈ Nat.toDigits 16 n) :
    ∃ d, Bytes.hexValue? c = some d := by
  induction n using Nat.base_induction 16 (by decide) with
  | single d hd =>
      rw [Nat.toDigits_of_lt_base hd, List.mem_singleton] at hmem
      exact ⟨d, hmem ▸ hexValue?_digitChar hd⟩
  | digit m d hd hm ih =>
      rw [← Nat.toDigits_append_toDigits (by decide) hm hd, Nat.toDigits_of_lt_base hd,
        List.mem_append, List.mem_singleton] at hmem
      rcases hmem with hmem | hmem
      · exact ih hmem
      · exact ⟨d, hmem ▸ hexValue?_digitChar hd⟩

/-- What has no value as a digit is no digit of a number. -/
theorem not_mem_toDigits (hvalue : Bytes.hexValue? c = none) (n : Nat) : c ∉ Nat.toDigits 16 n := by
  intro hmem
  obtain ⟨d, hd⟩ := hexValue?_of_mem_toDigits hmem
  rw [hvalue] at hd
  cases hd

/-- **Digits are read as the number that they write.** -/
theorem hexNumber?_toDigits (n : Nat) : hexNumber? (Nat.toDigits 16 n) = some n := by
  have hfold : (Nat.toDigits 16 n).foldlM
      (fun acc c => (Bytes.hexValue? c).map (16 * acc + ·)) 0 = some n := by
    induction n using Nat.base_induction 16 (by decide) with
    | single d hd => simp [Nat.toDigits_of_lt_base hd, hexValue?_digitChar hd]
    | digit m d hd hm ih =>
        rw [← Nat.toDigits_append_toDigits (by decide) hm hd, Nat.toDigits_of_lt_base hd,
          List.foldlM_append, ih]
        simp [hexValue?_digitChar hd]
  have hsome : (Nat.toDigits 16 n).isEmpty = false := by
    simp [List.isEmpty_eq_false_iff, Nat.toDigits_ne_nil]
  rw [hexNumber?, hsome, if_neg (by decide), hfold]

/-- An escape by number is read up to its brace. -/
theorem readBody?_numbered (c : Char) (rest : List Char) :
    readBody? (numbered c ++ rest) = (c :: ·) <$> readBody? rest := by
  have hbrace : ∀ d ∈ Nat.toDigits 16 c.toNat, decide (d ≠ '}') = true := by
    intro d hd
    have hne : d ≠ '}' := fun heq => not_mem_toDigits (by decide) _ (heq ▸ hd)
    exact decide_eq_true hne
  have hspelled : numbered c ++ rest =
      '\\' :: 'u' :: '{' :: (Nat.toDigits 16 c.toNat ++ '}' :: rest) := by
    simp [numbered]
  have hdigits : (Nat.toDigits 16 c.toNat ++ '}' :: rest).takeWhile (· ≠ '}') =
      Nat.toDigits 16 c.toNat := by
    rw [List.takeWhile_append_of_pos hbrace]
    simp
  have hafter : (Nat.toDigits 16 c.toNat ++ '}' :: rest).dropWhile (· ≠ '}') = '}' :: rest := by
    rw [List.dropWhile_append_of_pos hbrace]
    simp
  rw [hspelled, readBody?]
  split
  · rename_i after heq
    rw [hafter] at heq
    cases heq
    rw [hdigits, hexNumber?_toDigits]
    cases readBody? rest with
    | none => rfl
    | some text => simp
  · rename_i hnone
    exact (hnone rest hafter).elim

/-! ### Characters and texts -/

/-- A character that is neither a quote nor a backslash is taken as it is. -/
theorem readBody?_cons (hquote : c ≠ '"') (hbackslash : c ≠ '\\') (rest : List Char) :
    readBody? (c :: rest) = (c :: ·) <$> readBody? rest := by
  rw [readBody?]
  · simp [hquote, hbackslash]
  all_goals simp [hquote, hbackslash]

/-- **One character** is read back, whatever stands behind it. -/
theorem readBody?_escape (shown : Char → Bool) (c : Char) (rest : List Char) :
    readBody? (escape shown c ++ rest) = (c :: ·) <$> readBody? rest := by
  unfold escape
  split_ifs with hnewline hquote hbackslash hshown hnull htab hreturn
  · rw [hnewline, List.cons_append, List.cons_append, List.nil_append, readBody?]
  · rw [hquote, List.cons_append, List.cons_append, List.nil_append, readBody?]
  · rw [hbackslash, List.cons_append, List.cons_append, List.nil_append, readBody?]
  · exact readBody?_cons hquote hbackslash rest
  · rw [hnull, List.cons_append, List.cons_append, List.nil_append, readBody?]
  · rw [htab, List.cons_append, List.cons_append, List.nil_append, readBody?]
  · rw [hreturn, List.cons_append, List.cons_append, List.nil_append, readBody?]
  · exact readBody?_numbered c rest

/-- **Reading gives the text back**, whatever is shown. -/
theorem decode?_encode (shown : Char → Bool) (text : List Char) :
    decode? (encode shown text) = some text := by
  show readBody? (text.flatMap (escape shown) ++ ['"']) = some text
  induction text with
  | nil => rw [List.flatMap_nil, List.nil_append, readBody?]
  | cons c text ih => rw [List.flatMap_cons, List.append_assoc, readBody?_escape, ih]; rfl

/-- No escape holds a line end. -/
theorem newline_not_mem_escape (shown : Char → Bool) (c : Char) : '\n' ∉ escape shown c := by
  unfold escape
  split_ifs with hnewline hquote hbackslash hshown hnull htab hreturn
  · decide
  · decide
  · decide
  · rw [List.mem_singleton]
    exact fun heq => hnewline heq.symm
  · decide
  · decide
  · decide
  · have hdigit := not_mem_toDigits (show Bytes.hexValue? '\n' = none by decide) c.toNat
    simp [numbered, hdigit]

/-- **A quoted text stands on one line.** -/
theorem newline_not_mem_encode (shown : Char → Bool) (text : List Char) :
    '\n' ∉ encode shown text := by
  intro hmem
  simp only [encode, List.cons_append, List.mem_cons, List.mem_append, List.mem_flatMap,
    List.not_mem_nil, or_false] at hmem
  rcases hmem with hquote | ⟨c, _, hescape⟩ | hquote
  · exact absurd hquote (by decide)
  · exact newline_not_mem_escape shown c hescape
  · exact absurd hquote (by decide)

end Bootstrap.Text.Quoted
