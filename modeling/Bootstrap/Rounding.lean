/-!
# Rounding to the nearest, ties to even

One division rounds to the nearest integer and sends a half to the even
neighbour.  A binary floating-point number with 53 significant bits is the same
rounding taken at a power of two.
-/

namespace Bootstrap.Rounding

/-- `num / den` rounded to the nearest integer; a half goes to the even neighbour. -/
def nearestDiv (num den : Nat) : Nat :=
  let q := num / den
  let twice := 2 * (num % den)
  if twice < den then q
  else if den < twice then q + 1
  else if q % 2 = 0 then q
  else q + 1

/-- The significant bits of a double. -/
def significandBits : Nat := 53

/-- The distance between neighbouring doubles at the size of `n`. -/
def spacing (n : Nat) : Nat := Nat.pow 2 (n.log2 + 1 - significandBits)

/-- The double nearest to `n`, itself a natural number. -/
def nearestDouble (n : Nat) : Nat := nearestDiv n (spacing n) * spacing n

theorem nearestDiv_one (n : Nat) : nearestDiv n 1 = n := by
  simp [nearestDiv, Nat.mod_one]

/-- Up to 53 bits a natural number is a double. -/
theorem nearestDouble_of_lt {n : Nat} (h : n < Nat.pow 2 significandBits) : nearestDouble n = n := by
  have hlog : n.log2 + 1 - significandBits = 0 := by
    by_cases hn : n = 0
    · subst hn; decide
    · have := (Nat.log2_lt hn).2 h
      omega
  simp [nearestDouble, spacing, hlog, nearestDiv_one]

end Bootstrap.Rounding
