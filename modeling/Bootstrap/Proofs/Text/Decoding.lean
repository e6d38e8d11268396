import Bootstrap.Text.Utf8
import Mathlib.Data.List.Basic

/-!
# Reading text back

Strict reading is the way back from bytes to text: it finds a text exactly if the bytes are
those of this text.  So bytes that are refused are those of no text at all.

* `Text.Utf8.piece_eq_char_iff` — a character is found at the front of its own bytes;
* `Text.Utf8.decode?_eq_some_iff` — **reading is the way back from encoding**;
* `Text.Utf8.decodeLossy_eq_iff` — what lossy reading shows as a text of known characters is that
  text.
-/

namespace Bootstrap.Text.Utf8

variable {b : UInt8} {c : Char} {rest rest' : Bytes} {acc n v : Nat} {low high : UInt8}

/-- How many bytes follow, told by numbers. -/
theorem follow_eq (b : UInt8) : follow b =
    if 0xC2 ≤ b.toNat ∧ b.toNat ≤ 0xDF then (1, 0x80, 0xBF)
    else if b.toNat = 0xE0 then (2, 0xA0, 0xBF)
    else if b.toNat = 0xED then (2, 0x80, 0x9F)
    else if 0xE1 ≤ b.toNat ∧ b.toNat ≤ 0xEF then (2, 0x80, 0xBF)
    else if b.toNat = 0xF0 then (3, 0x90, 0xBF)
    else if b.toNat = 0xF4 then (3, 0x80, 0x8F)
    else if 0xF1 ≤ b.toNat ∧ b.toNat ≤ 0xF3 then (3, 0x80, 0xBF)
    else (0, 1, 0) := by
  unfold follow
  simp only [UInt8.le_iff_toNat_le, ← UInt8.toNat_inj, Bool.and_eq_true, decide_eq_true_eq,
    beq_iff_eq]
  rfl

theorem isContinuation_iff : isContinuation b = true ↔ 0x80 ≤ b.toNat ∧ b.toNat ≤ 0xBF := by
  unfold isContinuation
  rw [Bool.and_eq_true, decide_eq_true_eq, decide_eq_true_eq, UInt8.le_iff_toNat_le,
    UInt8.le_iff_toNat_le]
  rfl

theorem continuation_zero_iff :
    continuation 0 acc rest = (.char c, rest') ↔ c = Char.ofNat acc ∧ rest = rest' := by
  simp [continuation, eq_comm]

theorem continuation_succ_iff :
    continuation (n + 1) acc rest = (.char c, rest') ↔
      ∃ x more, rest = x :: more ∧ (0x80 ≤ x.toNat ∧ x.toNat ≤ 0xBF) ∧
        continuation n (acc * 64 + x.toNat % 64) more = (.char c, rest') := by
  cases rest with
  | nil => simp [continuation]
  | cons x more =>
      rw [continuation]
      cases hx : isContinuation x with
      | true => simp [isContinuation_iff.1 hx]
      | false =>
          have hnot : ¬ (0x80 ≤ x.toNat ∧ x.toNat ≤ 0xBF) := by
            rw [← isContinuation_iff, hx]
            decide
          simp [hnot]

theorem followers_succ_iff :
    followers low high (n + 1) acc rest = (.char c, rest') ↔
      ∃ x more, rest = x :: more ∧ (low.toNat ≤ x.toNat ∧ x.toNat ≤ high.toNat) ∧
        continuation n (acc * 64 + x.toNat % 64) more = (.char c, rest') := by
  cases rest with
  | nil => simp [followers]
  | cons x more =>
      by_cases hx : low.toNat ≤ x.toNat ∧ x.toNat ≤ high.toNat
      · simp [followers, UInt8.le_iff_toNat_le, hx]
      · have hnot : (decide (low ≤ x) && decide (x ≤ high)) = false := by
          simp only [Bool.and_eq_false_iff, decide_eq_false_iff_not, UInt8.le_iff_toNat_le]
          omega
        simp [followers, hnot, hx]

/-- A value stands for one character. -/
theorem eq_ofNat_iff (h : v.isValidChar) : c = Char.ofNat v ↔ c.val.toNat = v := by
  constructor
  · rintro rfl
    rw [Char.ofNat, dif_pos h]
    rfl
  · rintro rfl
    exact (Char.ofNat_toNat c).symm

theorem piece_of_follow (hlow : 0x80 ≤ b.toNat) (hfollow : follow b = (n, low, high)) :
    piece b rest = followers low high n (leadingBits n b) rest := by
  unfold piece
  rw [if_neg, hfollow]
  rw [UInt8.lt_iff_toNat_lt]
  exact Nat.not_lt.2 hlow

/-- One byte follows. -/
theorem piece_one_iff (hlow : 0x80 ≤ b.toNat) (hfollow : follow b = (1, low, high)) :
    piece b rest = (.char c, rest') ↔
      ∃ x, rest = x :: rest' ∧ (low.toNat ≤ x.toNat ∧ x.toNat ≤ high.toNat) ∧
        c = Char.ofNat (b.toNat % 32 * 64 + x.toNat % 64) := by
  rw [piece_of_follow hlow hfollow, followers_succ_iff]
  simp only [continuation_zero_iff]
  constructor
  · rintro ⟨x, _, rfl, hx, rfl, rfl⟩
    exact ⟨x, rfl, hx, rfl⟩
  · rintro ⟨x, rfl, hx, rfl⟩
    exact ⟨x, _, rfl, hx, rfl, rfl⟩

/-- Two bytes follow. -/
theorem piece_two_iff (hlow : 0x80 ≤ b.toNat) (hfollow : follow b = (2, low, high)) :
    piece b rest = (.char c, rest') ↔
      ∃ x y, rest = x :: y :: rest' ∧ (low.toNat ≤ x.toNat ∧ x.toNat ≤ high.toNat) ∧
        (0x80 ≤ y.toNat ∧ y.toNat ≤ 0xBF) ∧
        c = Char.ofNat ((b.toNat % 16 * 64 + x.toNat % 64) * 64 + y.toNat % 64) := by
  rw [piece_of_follow hlow hfollow, followers_succ_iff]
  simp only [continuation_succ_iff, continuation_zero_iff]
  constructor
  · rintro ⟨x, _, rfl, hx, y, _, rfl, hy, rfl, rfl⟩
    exact ⟨x, y, rfl, hx, hy, rfl⟩
  · rintro ⟨x, y, rfl, hx, hy, rfl⟩
    exact ⟨x, _, rfl, hx, y, _, rfl, hy, rfl, rfl⟩

/-- Three bytes follow. -/
theorem piece_three_iff (hlow : 0x80 ≤ b.toNat) (hfollow : follow b = (3, low, high)) :
    piece b rest = (.char c, rest') ↔
      ∃ x y z, rest = x :: y :: z :: rest' ∧ (low.toNat ≤ x.toNat ∧ x.toNat ≤ high.toNat) ∧
        (0x80 ≤ y.toNat ∧ y.toNat ≤ 0xBF) ∧ (0x80 ≤ z.toNat ∧ z.toNat ≤ 0xBF) ∧
        c = Char.ofNat
          (((b.toNat % 8 * 64 + x.toNat % 64) * 64 + y.toNat % 64) * 64 + z.toNat % 64) := by
  rw [piece_of_follow hlow hfollow, followers_succ_iff]
  simp only [continuation_succ_iff, continuation_zero_iff]
  constructor
  · rintro ⟨x, _, rfl, hx, y, _, rfl, hy, z, _, rfl, hz, rfl, rfl⟩
    exact ⟨x, y, z, rfl, hx, hy, hz, rfl⟩
  · rintro ⟨x, y, z, rfl, hx, hy, hz, rfl⟩
    exact ⟨x, _, rfl, hx, y, _, rfl, hy, z, _, rfl, hz, rfl, rfl⟩

/-- The bytes that can lead, by how many bytes follow them. -/
theorem follow_cases (b : UInt8) :
    (∃ low high, follow b = (1, low, high) ∧ (0xC2 ≤ b.toNat ∧ b.toNat ≤ 0xDF) ∧
      ∀ n, low.toNat ≤ n ∧ n ≤ high.toNat ↔ 0x80 ≤ n ∧ n ≤ 0xBF) ∨
    (∃ low high, follow b = (2, low, high) ∧ (0xE0 ≤ b.toNat ∧ b.toNat ≤ 0xEF) ∧
      ∀ n, low.toNat ≤ n ∧ n ≤ high.toNat ↔ (0x80 ≤ n ∧ n ≤ 0xBF) ∧
        (b.toNat = 0xE0 → 0xA0 ≤ n) ∧ (b.toNat = 0xED → n ≤ 0x9F)) ∨
    (∃ low high, follow b = (3, low, high) ∧ (0xF0 ≤ b.toNat ∧ b.toNat ≤ 0xF4) ∧
      ∀ n, low.toNat ≤ n ∧ n ≤ high.toNat ↔ (0x80 ≤ n ∧ n ≤ 0xBF) ∧
        (b.toNat = 0xF0 → 0x90 ≤ n) ∧ (b.toNat = 0xF4 → n ≤ 0x8F)) ∨
    (follow b = (0, 1, 0) ∧ (b.toNat < 0xC2 ∨ 0xF4 < b.toNat)) := by
  rw [follow_eq]
  split_ifs with h₁ h₂ h₃ h₄ h₅ h₆ h₇
  · exact .inl ⟨0x80, 0xBF, rfl, h₁, fun n => Iff.rfl⟩
  · exact .inr (.inl ⟨0xA0, 0xBF, rfl, by omega, fun n => by
      change 0xA0 ≤ n ∧ n ≤ 0xBF ↔ _
      omega⟩)
  · exact .inr (.inl ⟨0x80, 0x9F, rfl, by omega, fun n => by
      change 0x80 ≤ n ∧ n ≤ 0x9F ↔ _
      omega⟩)
  · exact .inr (.inl ⟨0x80, 0xBF, rfl, by omega, fun n => by
      change 0x80 ≤ n ∧ n ≤ 0xBF ↔ _
      omega⟩)
  · exact .inr (.inr (.inl ⟨0x90, 0xBF, rfl, by omega, fun n => by
      change 0x90 ≤ n ∧ n ≤ 0xBF ↔ _
      omega⟩))
  · exact .inr (.inr (.inl ⟨0x80, 0x8F, rfl, by omega, fun n => by
      change 0x80 ≤ n ∧ n ≤ 0x8F ↔ _
      omega⟩))
  · exact .inr (.inr (.inl ⟨0x80, 0xBF, rfl, by omega, fun n => by
      change 0x80 ≤ n ∧ n ≤ 0xBF ↔ _
      omega⟩))
  · exact .inr (.inr (.inr ⟨rfl, by omega⟩))

/-- The bytes of a character, told by numbers. -/
theorem cons_eq_encodeChar_append_iff :
    b :: rest = String.utf8EncodeChar c ++ rest' ↔
      (c.val.toNat < 0x80 ∧ b.toNat = c.val.toNat ∧ rest = rest') ∨
      ((0x80 ≤ c.val.toNat ∧ c.val.toNat < 0x800) ∧
        ∃ x : UInt8, rest = x :: rest' ∧ b.toNat = c.val.toNat / 64 + 0xC0 ∧
          x.toNat = c.val.toNat % 64 + 0x80) ∨
      ((0x800 ≤ c.val.toNat ∧ c.val.toNat < 0x10000) ∧
        ∃ x y : UInt8, rest = x :: y :: rest' ∧ b.toNat = c.val.toNat / 4096 + 0xE0 ∧
          x.toNat = c.val.toNat / 64 % 64 + 0x80 ∧ y.toNat = c.val.toNat % 64 + 0x80) ∨
      (0x10000 ≤ c.val.toNat ∧
        ∃ x y z : UInt8, rest = x :: y :: z :: rest' ∧ b.toNat = c.val.toNat / 262144 + 0xF0 ∧
          x.toNat = c.val.toNat / 4096 % 64 + 0x80 ∧ y.toNat = c.val.toNat / 64 % 64 + 0x80 ∧
          z.toNat = c.val.toNat % 64 + 0x80) := by
  have hvalid : c.val.toNat < 0x110000 := by
    have := c.valid
    simp only [UInt32.isValidChar, Nat.isValidChar] at this
    omega
  unfold String.utf8EncodeChar
  generalize c.val.toNat = v at hvalid
  simp only
  split_ifs with h₁ h₂ h₃ <;>
    simp only [List.cons_append, List.nil_append, List.cons.injEq, ← UInt8.toNat_inj,
      UInt8.toNat_ofNat']
  · constructor
    · rintro ⟨hb, rfl⟩
      exact .inl ⟨by omega, by omega, rfl⟩
    · rintro (⟨_, hb, rfl⟩ | ⟨h, _⟩ | ⟨h, _⟩ | ⟨h, _⟩)
      · exact ⟨by omega, rfl⟩
      all_goals omega
  · constructor
    · rintro ⟨hb, rfl⟩
      exact .inr (.inl ⟨by omega, _, rfl, by omega, by rw [UInt8.toNat_ofNat']; omega⟩)
    · rintro (⟨h, _⟩ | ⟨_, x, rfl, hb, hx⟩ | ⟨h, _⟩ | ⟨h, _⟩)
      · omega
      · exact ⟨by omega, by rw [← hx, UInt8.ofNat_toNat]⟩
      all_goals omega
  · constructor
    · rintro ⟨hb, rfl⟩
      exact .inr (.inr (.inl ⟨by omega, _, _, rfl, by omega, by rw [UInt8.toNat_ofNat']; omega,
        by rw [UInt8.toNat_ofNat']; omega⟩))
    · rintro (⟨h, _⟩ | ⟨h, _⟩ | ⟨_, x, y, rfl, hb, hx, hy⟩ | ⟨h, _⟩)
      · omega
      · omega
      · exact ⟨by omega, by rw [← hx, ← hy, UInt8.ofNat_toNat, UInt8.ofNat_toNat]⟩
      · omega
  · constructor
    · rintro ⟨hb, rfl⟩
      exact .inr (.inr (.inr ⟨by omega, _, _, _, rfl, by omega, by rw [UInt8.toNat_ofNat']; omega,
        by rw [UInt8.toNat_ofNat']; omega, by rw [UInt8.toNat_ofNat']; omega⟩))
    · rintro (⟨h, _⟩ | ⟨h, _⟩ | ⟨h, _⟩ | ⟨_, x, y, z, rfl, hb, hx, hy, hz⟩)
      · omega
      · omega
      · omega
      · exact ⟨by omega, by
          rw [← hx, ← hy, ← hz, UInt8.ofNat_toNat, UInt8.ofNat_toNat, UInt8.ofNat_toNat]⟩

/-- A character of one byte. -/
theorem piece_iff_of_ascii (hascii : b.toNat < 0x80) :
    piece b rest = (.char c, rest') ↔ b :: rest = String.utf8EncodeChar c ++ rest' := by
  have hpiece : piece b rest = (.char (Char.ofNat b.toNat), rest) := by
    unfold piece
    rw [if_pos (UInt8.lt_iff_toNat_lt.2 hascii)]
  rw [cons_eq_encodeChar_append_iff, hpiece, Prod.mk.injEq, Piece.char.injEq, eq_comm,
    eq_ofNat_iff (.inl (by omega))]
  constructor
  · rintro ⟨hc, rfl⟩
    exact .inl ⟨by omega, hc.symm, rfl⟩
  · rintro (⟨_, hb, rfl⟩ | ⟨_, x, _, hb, _⟩ | ⟨_, x, y, _, hb, _⟩ | ⟨_, x, y, z, _, hb, _⟩)
    · exact ⟨hb.symm, rfl⟩
    all_goals omega

/-- A character of two bytes. -/
theorem piece_iff_of_one (hfollow : follow b = (1, low, high))
    (hb : 0xC2 ≤ b.toNat ∧ b.toNat ≤ 0xDF)
    (hrange : ∀ n, low.toNat ≤ n ∧ n ≤ high.toNat ↔ 0x80 ≤ n ∧ n ≤ 0xBF) :
    piece b rest = (.char c, rest') ↔ b :: rest = String.utf8EncodeChar c ++ rest' := by
  rw [cons_eq_encodeChar_append_iff, piece_one_iff (by omega) hfollow]
  constructor
  · rintro ⟨x, rfl, hx, hc⟩
    rw [hrange] at hx
    rw [eq_ofNat_iff (.inl (by omega))] at hc
    exact .inr (.inl ⟨by omega, x, rfl, by omega, by omega⟩)
  · have hvalid : c.val.toNat < 0xD800 ∨ 0xDFFF < c.val.toNat ∧ c.val.toNat < 0x110000 := c.valid
    rintro (⟨_, hb', _⟩ | ⟨_, x, rfl, hb', hx⟩ | ⟨_, x, y, _, hb', _⟩ | ⟨_, x, y, z, _, hb', _⟩)
    · omega
    · refine ⟨x, rfl, (hrange _).2 (by omega), ?_⟩
      rw [eq_ofNat_iff (.inl (by omega))]
      omega
    all_goals omega

/-- A character of three bytes.  The narrow ranges keep out what two bytes can say, and the values
that are no characters. -/
theorem piece_iff_of_two (hfollow : follow b = (2, low, high))
    (hb : 0xE0 ≤ b.toNat ∧ b.toNat ≤ 0xEF)
    (hrange : ∀ n, low.toNat ≤ n ∧ n ≤ high.toNat ↔ (0x80 ≤ n ∧ n ≤ 0xBF) ∧
      (b.toNat = 0xE0 → 0xA0 ≤ n) ∧ (b.toNat = 0xED → n ≤ 0x9F)) :
    piece b rest = (.char c, rest') ↔ b :: rest = String.utf8EncodeChar c ++ rest' := by
  rw [cons_eq_encodeChar_append_iff, piece_two_iff (by omega) hfollow]
  constructor
  · rintro ⟨x, y, rfl, hx, hy, hc⟩
    rw [hrange] at hx
    rw [eq_ofNat_iff (show Nat.isValidChar _ from by unfold Nat.isValidChar; omega)] at hc
    exact .inr (.inr (.inl ⟨by omega, x, y, rfl, by omega, by omega, by omega⟩))
  · have hvalid : c.val.toNat < 0xD800 ∨ 0xDFFF < c.val.toNat ∧ c.val.toNat < 0x110000 := c.valid
    rintro (⟨_, hb', _⟩ | ⟨_, x, _, hb', _⟩ | ⟨_, x, y, rfl, hb', hx, hy⟩ | ⟨_, x, y, z, _, hb', _⟩)
    · omega
    · omega
    · refine ⟨x, y, rfl, (hrange _).2 (by omega), by omega, ?_⟩
      rw [eq_ofNat_iff (show Nat.isValidChar _ from by unfold Nat.isValidChar; omega)]
      omega
    · omega

/-- A character of four bytes.  The narrow ranges keep out what three bytes can say, and what lies
behind the last character. -/
theorem piece_iff_of_three (hfollow : follow b = (3, low, high))
    (hb : 0xF0 ≤ b.toNat ∧ b.toNat ≤ 0xF4)
    (hrange : ∀ n, low.toNat ≤ n ∧ n ≤ high.toNat ↔ (0x80 ≤ n ∧ n ≤ 0xBF) ∧
      (b.toNat = 0xF0 → 0x90 ≤ n) ∧ (b.toNat = 0xF4 → n ≤ 0x8F)) :
    piece b rest = (.char c, rest') ↔ b :: rest = String.utf8EncodeChar c ++ rest' := by
  rw [cons_eq_encodeChar_append_iff, piece_three_iff (by omega) hfollow]
  constructor
  · rintro ⟨x, y, z, rfl, hx, hy, hz, hc⟩
    rw [hrange] at hx
    rw [eq_ofNat_iff (.inr (by omega))] at hc
    exact .inr (.inr (.inr ⟨by omega, x, y, z, rfl, by omega, by omega, by omega, by omega⟩))
  · have hvalid : c.val.toNat < 0xD800 ∨ 0xDFFF < c.val.toNat ∧ c.val.toNat < 0x110000 := c.valid
    rintro (⟨_, hb', _⟩ | ⟨_, x, _, hb', _⟩ | ⟨_, x, y, _, hb', _⟩ |
      ⟨_, x, y, z, rfl, hb', hx, hy, hz⟩)
    · omega
    · omega
    · omega
    · refine ⟨x, y, z, rfl, (hrange _).2 (by omega), by omega, by omega, ?_⟩
      rw [eq_ofNat_iff (.inr (by omega))]
      omega

/-- **A character is found at the front of its own bytes**, and of no others. -/
theorem piece_eq_char_iff :
    piece b rest = (.char c, rest') ↔ b :: rest = String.utf8EncodeChar c ++ rest' := by
  by_cases hascii : b.toNat < 0x80
  · exact piece_iff_of_ascii hascii
  rcases follow_cases b with ⟨low, high, hfollow, hb, hrange⟩ | ⟨low, high, hfollow, hb, hrange⟩ |
    ⟨low, high, hfollow, hb, hrange⟩ | ⟨hfollow, hb⟩
  · exact piece_iff_of_one hfollow hb hrange
  · exact piece_iff_of_two hfollow hb hrange
  · exact piece_iff_of_three hfollow hb hrange
  · -- A byte that cannot lead begins no character.
    rw [cons_eq_encodeChar_append_iff, piece_of_follow (Nat.not_lt.1 hascii) hfollow, followers]
    have hvalid : c.val.toNat < 0xD800 ∨ 0xDFFF < c.val.toNat ∧ c.val.toNat < 0x110000 := c.valid
    constructor
    · rintro ⟨⟩
    · rintro (⟨_, hb', _⟩ | ⟨_, x, _, hb', _⟩ | ⟨_, x, y, _, hb', _⟩ | ⟨_, x, y, z, _, hb', _⟩) <;>
        omega

theorem decodeChars?_cons_of_char (h : piece b rest = (.char c, rest')) :
    decodeChars? (b :: rest) = (decodeChars? rest').map (c :: ·) := by
  unfold decodeChars?
  rw [pieces, h, List.mapM_cons, Option.map_eq_bind]
  rfl

theorem decodeChars?_cons_of_broken (h : piece b rest = (.broken, rest')) :
    decodeChars? (b :: rest) = none := by
  unfold decodeChars?
  rw [pieces, h, List.mapM_cons]
  rfl

theorem decodeChars?_eq_some_iff {bytes : Bytes} {cs : List Char} :
    decodeChars? bytes = some cs ↔ cs.flatMap String.utf8EncodeChar = bytes := by
  induction bytes using pieces.induct generalizing cs with
  | case1 =>
      cases cs with
      | nil => simp [decodeChars?, pieces]
      | cons c cs => simp [decodeChars?, pieces, String.utf8EncodeChar_ne_nil]
  | case2 b rest ih =>
      have hcons : ∀ {c cs}, (c :: cs).flatMap String.utf8EncodeChar = b :: rest ↔
          piece b rest = (.char c, cs.flatMap String.utf8EncodeChar) := by
        intro c cs
        rw [piece_eq_char_iff, List.flatMap_cons, eq_comm]
      cases cs with
      | nil =>
          rcases hpiece : piece b rest with ⟨c | _, rest'⟩
          · simp [decodeChars?_cons_of_char hpiece]
          · simp [decodeChars?_cons_of_broken hpiece]
      | cons c' cs =>
          rw [hcons]
          rcases hpiece : piece b rest with ⟨c | _, rest'⟩
          · rw [hpiece] at ih
            rw [decodeChars?_cons_of_char hpiece, Option.map_eq_some_iff, Prod.mk.injEq,
              Piece.char.injEq]
            constructor
            · rintro ⟨_, hcs, heq⟩
              cases heq
              exact ⟨rfl, (ih.1 hcs).symm⟩
            · rintro ⟨rfl, hcs⟩
              exact ⟨cs, ih.2 hcs.symm, rfl⟩
          · simp [decodeChars?_cons_of_broken hpiece]

/-- **Reading is the way back from encoding**: it finds a text exactly if the bytes are those of
this text. -/
theorem decode?_eq_some_iff {bytes : Bytes} {text : String} :
    decode? bytes = some text ↔ encode text = bytes := by
  unfold decode? encode
  rw [Option.map_eq_some_iff]
  constructor
  · rintro ⟨cs, hcs, rfl⟩
    rw [String.toList_ofList]
    exact decodeChars?_eq_some_iff.1 hcs
  · intro h
    exact ⟨text.toList, decodeChars?_eq_some_iff.2 h, String.ofList_toList⟩

/-- Bytes that are refused are those of no text. -/
theorem decode?_eq_none_iff {bytes : Bytes} :
    decode? bytes = none ↔ ∀ text, encode text ≠ bytes := by
  rw [Option.eq_none_iff_forall_ne_some]
  exact forall_congr' fun text => not_congr decode?_eq_some_iff

/-! ### Lossy reading -/

theorem toList_decodeLossy_cons_of_char (h : piece b rest = (.char c, rest')) :
    (decodeLossy (b :: rest)).toList = c :: (decodeLossy rest').toList := by
  unfold decodeLossy
  rw [pieces, h, List.map_cons, String.toList_ofList, String.toList_ofList]

theorem toList_decodeLossy_cons_of_broken (h : piece b rest = (.broken, rest')) :
    (decodeLossy (b :: rest)).toList = replacement :: (decodeLossy rest').toList := by
  unfold decodeLossy
  rw [pieces, h, List.map_cons, String.toList_ofList, String.toList_ofList]

/-- What can be read strictly shows as it is. -/
theorem toList_decodeLossy_of_some {bytes : Bytes} {cs : List Char}
    (h : decodeChars? bytes = some cs) : (decodeLossy bytes).toList = cs := by
  induction bytes using pieces.induct generalizing cs with
  | case1 =>
      rw [decodeChars?, pieces, List.mapM_nil] at h
      cases h
      rw [decodeLossy, pieces, String.toList_ofList, List.map_nil]
  | case2 b rest ih =>
      rcases hpiece : piece b rest with ⟨c | _, rest'⟩
      · rw [hpiece] at ih
        rw [decodeChars?_cons_of_char hpiece, Option.map_eq_some_iff] at h
        obtain ⟨cs', hcs', rfl⟩ := h
        rw [toList_decodeLossy_cons_of_char hpiece, ih hcs']
      · rw [decodeChars?_cons_of_broken hpiece] at h
        cases h

/-- What cannot be read strictly shows a replacement character. -/
theorem replacement_mem_decodeLossy {bytes : Bytes} (h : decodeChars? bytes = none) :
    replacement ∈ (decodeLossy bytes).toList := by
  induction bytes using pieces.induct with
  | case1 =>
      rw [decodeChars?, pieces] at h
      cases h
  | case2 b rest ih =>
      rcases hpiece : piece b rest with ⟨c | _, rest'⟩
      · rw [hpiece] at ih
        rw [decodeChars?_cons_of_char hpiece, Option.map_eq_none_iff] at h
        rw [toList_decodeLossy_cons_of_char hpiece]
        exact List.mem_cons_of_mem c (ih h)
      · rw [toList_decodeLossy_cons_of_broken hpiece]
        exact List.mem_cons_self

/-- **A text without replacement characters shows for its own bytes alone.** -/
theorem decodeLossy_eq_iff {bytes : Bytes} {text : String} (hclean : replacement ∉ text.toList) :
    decodeLossy bytes = text ↔ encode text = bytes := by
  rw [← String.toList_inj]
  constructor
  · intro hshown
    cases hread : decodeChars? bytes with
    | none =>
        rw [← hshown] at hclean
        exact absurd (replacement_mem_decodeLossy hread) hclean
    | some cs =>
        rw [toList_decodeLossy_of_some hread] at hshown
        rw [encode, ← hshown]
        exact decodeChars?_eq_some_iff.1 hread
  · intro hbytes
    exact toList_decodeLossy_of_some (decodeChars?_eq_some_iff.2 hbytes)

end Bootstrap.Text.Utf8
