import Bootstrap.Rounding
import Mathlib.Algebra.Order.Ring.Abs
import Mathlib.Algebra.Order.Floor.Ring
import Mathlib.Data.Rat.Floor
import Mathlib.Tactic.FieldSimp
import Mathlib.Tactic.Linarith
import Mathlib.Tactic.LinearCombination
import Mathlib.Tactic.Positivity
import Mathlib.Tactic.Ring

/-!
# What rounding gives

A grid is a set of numbers that a number can be rounded to: the multiples of a number, or
the doubles.  Of two grid numbers that are equally near, the even one is taken, the one
that is an even multiple of their distance.  That fixes the result and keeps the order,
whatever the grid is.

* `Rounds.unique`, `Rounds.mono` — a number rounds to one number, and rounding keeps order;
* `rounds_multiple` — `nearestDiv` rounds a quotient to a multiple;
* `rounds_nearestDouble` — `nearestDouble` rounds a natural number to a double.
-/

namespace Bootstrap.Rounding

variable {grid : ℚ → Prop} {x x' y y' : ℚ}

/-- `x` rounds to `y`: no number of the grid is nearer, and of two equally near ones `y` is the even
one, the one that is an even multiple of their distance. -/
structure Rounds (grid : ℚ → Prop) (x y : ℚ) : Prop where
  mem : grid y
  nearest : ∀ z, grid z → |x - y| ≤ |x - z|
  even : ∀ z, grid z → z ≠ y → |x - y| = |x - z| → ∃ k : ℤ, y = 2 * k * |y - z|

/-- A number of the grid stays as it is. -/
theorem Rounds.self (h : grid x) : Rounds grid x x where
  mem := h
  nearest := by
    intro z _
    rw [sub_self, abs_zero]
    exact abs_nonneg _
  even := by
    intro z _ hne heq
    rw [sub_self, abs_zero] at heq
    exact (hne (sub_eq_zero.1 (abs_eq_zero.1 heq.symm)).symm).elim

/-- Of two different numbers not both are even multiples of their distance. -/
theorem eq_of_even {k l : ℤ} (hy : y = 2 * k * |y - y'|) (hy' : y' = 2 * l * |y' - y|) : y = y' := by
  by_contra hne
  have hpos : 0 < |y - y'| := abs_pos.2 (sub_ne_zero.2 hne)
  rw [abs_sub_comm y' y] at hy'
  have hdiff : y - y' = (2 * (k - l) : ℤ) * |y - y'| := by
    push_cast
    linear_combination hy - hy'
  have hone : |((2 * (k - l) : ℤ) : ℚ)| = 1 := by
    have habs := congrArg abs hdiff
    rw [abs_mul, abs_abs] at habs
    exact mul_right_cancel₀ hpos.ne' (by rw [one_mul]; exact habs.symm)
  have hint : |2 * (k - l)| = (1 : ℤ) := by exact_mod_cast hone
  rcases abs_eq (zero_le_one' ℤ) |>.1 hint with h | h <;> omega

/-- **A number rounds to one number.** -/
theorem Rounds.unique (h : Rounds grid x y) (h' : Rounds grid x y') : y = y' := by
  by_contra hne
  have heq : |x - y| = |x - y'| := le_antisymm (h.nearest y' h'.mem) (h'.nearest y h.mem)
  obtain ⟨k, hk⟩ := h.even y' h'.mem (Ne.symm hne) heq
  obtain ⟨l, hl⟩ := h'.even y h.mem hne heq.symm
  exact hne (eq_of_even hk hl)

/-- **Rounding keeps the order.** -/
theorem Rounds.mono (h : Rounds grid x y) (h' : Rounds grid x' y') (hle : x ≤ x') : y ≤ y' := by
  by_contra hlt
  push Not at hlt
  -- Both numbers lie on the middle between the two results, so they are one number.
  have hhigh : y + y' ≤ 2 * x := by
    have hsq := sq_le_sq.2 (h.nearest y' h'.mem)
    nlinarith
  have hlow : 2 * x' ≤ y + y' := by
    have hsq := sq_le_sq.2 (h'.nearest y h.mem)
    nlinarith
  have hx : x = x' := by linarith
  subst hx
  exact hlt.ne' (h.unique h')

/-- The finite numbers of double precision: 53 significant bits and an exponent in range. -/
def IsDouble (x : ℚ) : Prop :=
  ∃ m e : ℤ, |m| < 2 ^ significandBits ∧ -1074 ≤ e ∧ e ≤ 971 ∧ x = m * 2 ^ e

/-- The multiples of a number. -/
def IsMultiple (u x : ℚ) : Prop := ∃ k : ℤ, x = k * u

/-- What a division says of its quotient. -/
theorem nearestDiv_cases (num den : ℕ) (hden : 0 < den) :
    (2 * num ≤ (2 * nearestDiv num den + 1) * den ∧
      2 * nearestDiv num den * den ≤ 2 * num + den) ∧
    ((2 * num = (2 * nearestDiv num den + 1) * den ∨
      2 * nearestDiv num den * den = 2 * num + den) → nearestDiv num den % 2 = 0) := by
  have hdiv := Nat.div_add_mod num den
  have hlt := Nat.mod_lt num hden
  have hexpand : ∀ q, (2 * q + 1) * den = 2 * (den * q) + den := by
    intro q
    ring
  have hexpand' : ∀ q, 2 * q * den = 2 * (den * q) := by
    intro q
    ring
  unfold nearestDiv
  simp only [hexpand, hexpand']
  split
  · omega
  · split
    · rw [Nat.mul_add, Nat.mul_one]
      omega
    · split
      · omega
      · rw [Nat.mul_add, Nat.mul_one]
        omega

/-- A quotient is at most half from what it is divided to, and only the even number is that far. -/
theorem abs_sub_nearestDiv (num : ℕ) {den : ℕ} (hden : 0 < den) :
    2 * |(num / den : ℚ) - nearestDiv num den| ≤ 1 ∧
      (2 * |(num / den : ℚ) - nearestDiv num den| = 1 → Even (nearestDiv num den)) := by
  obtain ⟨⟨hhigh, hlow⟩, htie⟩ := nearestDiv_cases num den hden
  generalize nearestDiv num den = q at *
  have hpos : (0 : ℚ) < den := by exact_mod_cast hden
  have hdiff : 2 * ((num / den : ℚ) - q) * den = 2 * num - 2 * q * den := by
    field_simp
  have hhigh' : (2 * num : ℚ) ≤ (2 * q + 1) * den := by exact_mod_cast hhigh
  have hlow' : (2 * q * den : ℚ) ≤ 2 * num + den := by exact_mod_cast hlow
  have habs : 2 * |(num / den : ℚ) - q| = |2 * ((num / den : ℚ) - q)| := by
    rw [abs_mul, abs_two]
  rw [habs]
  constructor
  · rw [abs_le]
    constructor <;> nlinarith
  · intro hone
    rw [Nat.even_iff]
    apply htie
    rcases (abs_eq zero_le_one).1 hone with h | h <;> rw [h] at hdiff
    · left
      have : (2 * num : ℚ) = (2 * q + 1) * den := by linear_combination -hdiff
      exact_mod_cast this
    · right
      have : (2 * q * den : ℚ) = 2 * num + den := by linear_combination hdiff
      exact_mod_cast this

/-- **A quotient rounds to a multiple.** -/
theorem rounds_multiple (num : ℕ) {den : ℕ} (hden : 0 < den) {u : ℚ} (hu : 0 < u) :
    Rounds (IsMultiple u) (num / den * u) (nearestDiv num den * u) := by
  obtain ⟨hhalf, heven⟩ := abs_sub_nearestDiv num hden
  generalize hq : nearestDiv num den = q at *
  generalize (num / den : ℚ) = x at *
  have hscale : ∀ y : ℚ, |x * u - y * u| = |x - y| * u := by
    intro y
    rw [← sub_mul, abs_mul, abs_of_pos hu]
  -- Another multiple is at least one step away, so at least half a step from the quotient.
  have hfar : ∀ k : ℤ, k ≠ q → 1 ≤ |x - k| + |x - q| := by
    intro k hne
    have hstep : (1 : ℚ) ≤ |(k : ℚ) - q| := by
      have : (1 : ℤ) ≤ |k - q| := Int.one_le_abs (sub_ne_zero.2 hne)
      exact_mod_cast this
    have htriangle := abs_sub_le (k : ℚ) x q
    rw [abs_sub_comm (k : ℚ) x] at htriangle
    linarith
  constructor
  · exact ⟨q, by push_cast; rfl⟩
  · rintro _ ⟨k, rfl⟩
    rw [← Int.cast_natCast (R := ℚ) q, hscale, hscale]
    refine mul_le_mul_of_nonneg_right ?_ hu.le
    by_cases hk : k = q
    · rw [hk]
    · have := hfar k hk
      push_cast at this ⊢
      linarith
  · rintro _ ⟨k, rfl⟩ hne heq
    have hk : k ≠ q := by
      rintro rfl
      exact hne (by push_cast; rfl)
    rw [hscale, hscale] at heq
    have hsame : |x - q| = |x - k| := mul_right_cancel₀ hu.ne' heq
    have hfar' := hfar k hk
    have hone : 2 * |x - q| = 1 := by linarith
    obtain ⟨j, hj⟩ := heven hone
    -- The two lie on both sides of the quotient, one step apart.
    have hapart : |(q : ℚ) - k| = 1 := by
      have hle : |(q : ℚ) - k| ≤ 1 := by
        have := abs_sub_le (q : ℚ) x k
        rw [abs_sub_comm (q : ℚ) x] at this
        linarith
      have hge : (1 : ℚ) ≤ |(q : ℚ) - k| := by
        have : (1 : ℤ) ≤ |(q : ℤ) - k| := Int.one_le_abs (sub_ne_zero.2 (Ne.symm hk))
        exact_mod_cast this
      exact le_antisymm hle hge
    refine ⟨j, ?_⟩
    rw [← sub_mul, abs_mul, abs_of_pos hu, hapart, hj]
    push_cast
    ring

/-- Numbers of the grid that lie far below do not matter. -/
theorem Rounds.restrict {u low : ℚ} (h : Rounds (IsMultiple u) x y) (hmem : grid y)
    (hgrid : ∀ z, grid z → IsMultiple u z ∨ z < low) (hlow : IsMultiple u low) (hle : low ≤ x) :
    Rounds grid x y := by
  have hbelow : ∀ z, z < low → |x - y| < |x - z| := by
    intro z hz
    calc |x - y| ≤ |x - low| := h.nearest low hlow
      _ = x - low := abs_of_nonneg (by linarith)
      _ < x - z := by linarith
      _ ≤ |x - z| := le_abs_self _
  constructor
  · exact hmem
  · intro z hz
    rcases hgrid z hz with hmultiple | hz
    · exact h.nearest z hmultiple
    · exact (hbelow z hz).le
  · intro z hz hne heq
    rcases hgrid z hz with hmultiple | hz
    · exact h.even z hmultiple hne heq
    · exact ((hbelow z hz).ne heq).elim

/-- A natural number with few significant bits is a double. -/
theorem isDouble_natCast {m k : ℕ} (hm : m < 2 ^ significandBits) (hk : k ≤ 971) :
    IsDouble (m * 2 ^ k) :=
  ⟨m, k, by rw [Nat.abs_cast]; exact_mod_cast hm, by omega, by exact_mod_cast hk, by
    rw [zpow_natCast]
    push_cast
    rfl⟩

/-- A double that is no multiple of a power of two is below the numbers that need it. -/
theorem IsDouble.multiple_or_lt {k : ℕ} (h : IsDouble x) :
    IsMultiple (2 ^ k) x ∨ x < 2 ^ (52 + k) := by
  obtain ⟨m, e, hm, _, _, rfl⟩ := h
  by_cases hk : (k : ℤ) ≤ e
  · obtain ⟨j, rfl⟩ := Int.le.dest hk
    refine .inl ⟨m * 2 ^ j, ?_⟩
    rw [zpow_add₀ two_ne_zero, zpow_natCast, zpow_natCast]
    push_cast
    ring
  · right
    have hm' : (m : ℚ) < 2 ^ (53 : ℤ) := by
      have : m < 2 ^ 53 := lt_of_le_of_lt (le_abs_self m) hm
      exact_mod_cast this
    calc (m : ℚ) * 2 ^ e < 2 ^ (53 : ℤ) * 2 ^ e := by
          exact mul_lt_mul_of_pos_right hm' (zpow_pos two_pos e)
      _ = 2 ^ (53 + e) := (zpow_add₀ two_ne_zero _ _).symm
      _ ≤ 2 ^ ((52 + k : ℕ) : ℤ) := zpow_le_zpow_right₀ one_le_two (by push_cast; omega)
      _ = 2 ^ (52 + k) := zpow_natCast _ _

/-- A quotient below a bound rounds to the bound at most. -/
theorem nearestDiv_le {num den bound : ℕ} (hden : 0 < den) (h : num ≤ bound * den) :
    nearestDiv num den ≤ bound := by
  have hself : Rounds (IsMultiple 1) (bound : ℚ) bound := .self ⟨bound, by simp⟩
  have hrounds := rounds_multiple num hden (u := 1) one_pos
  rw [mul_one, mul_one] at hrounds
  have hle : (num / den : ℚ) ≤ bound := by
    rw [div_le_iff₀ (by exact_mod_cast hden)]
    exact_mod_cast h
  exact_mod_cast hrounds.mono hself hle

/-- **A natural number rounds to a double.** -/
theorem rounds_nearestDouble {n : ℕ} (h : n < 2 ^ 64) : Rounds IsDouble n (nearestDouble n) := by
  by_cases hsmall : n < 2 ^ significandBits
  · rw [nearestDouble_of_lt hsmall]
    have hdouble := isDouble_natCast hsmall (Nat.zero_le 971)
    rw [pow_zero, mul_one] at hdouble
    exact .self hdouble
  · have hn : n ≠ 0 := by
      rintro rfl
      exact hsmall (by decide)
    have hlog : 53 ≤ n.log2 := (Nat.le_log2 hn).2 (Nat.le_of_not_lt hsmall)
    have hlog' : n.log2 < 64 := (Nat.log2_lt hn).2 h
    obtain ⟨k, hk⟩ : ∃ k, n.log2 = 52 + k := ⟨n.log2 - 52, by omega⟩
    have hspacing : spacing n = 2 ^ k := by
      unfold spacing significandBits
      rw [hk]
      exact congrArg _ (by omega)
    have hle : 2 ^ (52 + k) ≤ n := (Nat.le_log2 hn).1 hk.ge
    have hlt : n < 2 ^ 53 * 2 ^ k := by
      rw [← pow_add]
      exact (Nat.log2_lt hn).1 (by omega)
    have hpos : 0 < 2 ^ k := by positivity
    have hbound : nearestDiv n (2 ^ k) ≤ 2 ^ 53 := nearestDiv_le hpos hlt.le
    have hrounds := rounds_multiple n hpos (u := 2 ^ k) (by positivity)
    have hquotient : (n / (2 ^ k : ℕ) * 2 ^ k : ℚ) = n := by
      push_cast
      field_simp
    rw [hquotient] at hrounds
    have hvalue : (nearestDouble n : ℚ) = nearestDiv n (2 ^ k) * 2 ^ k := by
      unfold nearestDouble
      rw [hspacing]
      push_cast
      rfl
    rw [hvalue]
    have hgrid : ∀ z, IsDouble z → IsMultiple (2 ^ k) z ∨ z < 2 ^ (52 + k) :=
      fun z hz => hz.multiple_or_lt
    refine hrounds.restrict ?_ hgrid ?_ ?_
    · -- The largest quotient has a bit too many, but then it is a power of two.
      rcases hbound.lt_or_eq with hfew | hfull
      · exact isDouble_natCast hfew (by omega)
      · rw [hfull]
        have hdouble := isDouble_natCast (m := 2 ^ 52) (k := k + 1) (by decide) (by omega)
        have hsame : ((2 ^ 53 : ℕ) : ℚ) * 2 ^ k = (2 ^ 52 : ℕ) * 2 ^ (k + 1) := by
          push_cast
          ring
        rw [hsame]
        exact hdouble
    · exact ⟨2 ^ 52, by push_cast; ring⟩
    · exact_mod_cast hle

end Bootstrap.Rounding
