import Bootstrap.Rounding
import Bootstrap.Text.Raw

/-!
# Floating-point numbers as text

A floating-point number is a whole number times a power of two, so its decimal
digits can be had exactly.  Numbers are written with a fixed number of places, or
with a fixed number of digits and a power of ten; the last digit is rounded to the
nearest, and a tie goes to the even digit.
-/

namespace Bootstrap.Decimal

/-- A number that is not negative: `mantissa` times two to the power of `exponent`. -/
structure Magnitude where
  mantissa : Nat
  exponent : Int
  deriving DecidableEq, Repr

/-- What a floating-point number is. -/
inductive Kind where
  | finite (negative : Bool) (m : Magnitude)
  | infinite (negative : Bool)
  | notNumber
  deriving DecidableEq, Repr

/-- Takes a floating-point number apart. -/
def kindOf (x : Float) : Kind :=
  let bits := x.toBits.toNat
  let negative := bits / Nat.pow 2 63 = 1
  let exponent : Nat := bits / Nat.pow 2 52 % 2048
  let fraction : Nat := bits % Nat.pow 2 52
  if exponent = 2047 then if fraction = 0 then .infinite negative else .notNumber
  else if exponent = 0 then .finite negative ⟨fraction, -1074⟩
  else .finite negative ⟨Nat.pow 2 52 + fraction, (exponent : Int) - 1075⟩

namespace Magnitude

/-- The number times ten to the power of `power`, rounded to a whole number. -/
def scaled (m : Magnitude) (power : Int) : Nat :=
  let num := m.mantissa * Nat.pow 2 m.exponent.toNat * Nat.pow 10 power.toNat
  let den := Nat.pow 2 (-m.exponent).toNat * Nat.pow 10 (-power).toNat
  Rounding.nearestDiv num den

/-- Whether the number is at least ten to the power of `power`. -/
def reaches (m : Magnitude) (power : Int) : Bool :=
  Nat.pow 10 power.toNat * Nat.pow 2 (-m.exponent).toNat ≤
    m.mantissa * Nat.pow 2 m.exponent.toNat * Nat.pow 10 (-power).toNat

/-- The power of ten of the first digit: the search begins near it. -/
def power (m : Magnitude) : Int :=
  if m.mantissa = 0 then 0
  else
    let guess := ((m.mantissa.log2 : Int) + m.exponent) * 30103 / 100000
    let candidates := [guess + 2, guess + 1, guess, guess - 1, guess - 2]
    (candidates.find? m.reaches).getD (guess - 3)

end Magnitude

/-- Digits with a point in front of the last `places`. -/
def pointed (digits : Raw) (places : Nat) (keepsPoint : Bool) : Raw :=
  let filled := Raw.padLeft (places + 1) digits '0'
  let whole := filled.take (filled.length - places)
  let fraction := filled.drop (filled.length - places)
  if places = 0 then if keepsPoint then whole ++ ['.'] else whole else whole ++ '.' :: fraction

/-- With a fixed number of places. -/
def fixed (m : Magnitude) (places : Nat) (keepsPoint : Bool) : Raw :=
  pointed (Raw.ofNat (m.scaled places)) places keepsPoint

/-- The digits of a number rounded to `count` of them, and the power of ten of the first. -/
def digits (m : Magnitude) (count : Nat) : Raw × Int :=
  let power := m.power
  let n := m.scaled (count - 1 - power)
  if Nat.pow 10 count ≤ n then (Raw.ofNat (n / 10), power + 1)
  else (Raw.padLeft count (Raw.ofNat n) '0', power)

/-- A power of ten, of at least two digits, behind its mark. -/
def exponentText (mark : Char) (power : Int) : Raw :=
  mark :: (if power < 0 then '-' else '+') :: Raw.padLeft 2 (Raw.ofNat power.natAbs) '0'

/-- With one digit in front of the point and a fixed number behind it. -/
def scientific (m : Magnitude) (places : Nat) (keepsPoint : Bool) (mark : Char) : Raw :=
  let (ds, power) := digits m (places + 1)
  pointed ds places keepsPoint ++ exponentText mark power

/-- A text with a point without zeros at its end. -/
def withoutZeros (text : Raw) : Raw :=
  if text.contains '.' then
    let cut := Raw.dropEndWhile (· == '0') text
    if cut.getLast? = some '.' then cut.dropLast else cut
  else text

/-- With so many digits at most, in the shorter of both ways. -/
def general (m : Magnitude) (precision : Nat) (keepsZeros : Bool) (mark : Char) : Raw :=
  let count := max precision 1
  let (ds, power) := digits m count
  let trimmed := fun text => if keepsZeros then text else withoutZeros text
  if power < -4 ∨ (count : Int) ≤ power then
    trimmed (pointed ds (count - 1) keepsZeros) ++ exponentText mark power
  else trimmed (fixed m (count - 1 - power).toNat keepsZeros)

/-- The floating-point number at the front of a text, blanks before it aside, and what follows it. -/
def leading? (text : Raw) : Option (Float × Raw) :=
  let body := text.dropWhile Raw.isBlank
  let (negative, body) := match body with
    | '-' :: rest => (true, rest)
    | '+' :: rest => (false, rest)
    | rest => (false, rest)
  let signed := fun (x : Float) => if negative then -x else x
  let whole := body.takeWhile Char.isDigit
  let behind := body.drop whole.length
  let fraction := match behind with
    | '.' :: rest => rest.takeWhile Char.isDigit
    | _ => []
  let behind := match behind with
    | '.' :: rest => if whole.isEmpty && fraction.isEmpty then behind else rest.drop fraction.length
    | _ => behind
  if whole.isEmpty && fraction.isEmpty then
    match Raw.lower (body.take 3) with
    | ['i', 'n', 'f'] =>
        let rest := body.drop 3
        let rest := if Raw.lower (rest.take 5) = raw "inity" then rest.drop 5 else rest
        some (signed (1 / 0), rest)
    | ['n', 'a', 'n'] => some (signed (0 / 0), body.drop 3)
    | _ => none
  else
    let (power, behind) := match behind with
      | e :: rest =>
          if e = 'e' ∨ e = 'E' then
            let (negative, ds) := match rest with
              | '-' :: ds => (true, ds)
              | '+' :: ds => (false, ds)
              | ds => (false, ds)
            let ds' := ds.takeWhile Char.isDigit
            match Raw.digits? ds' with
            | some n => ((if negative then -(n : Int) else n), ds.drop ds'.length)
            | none => ((0 : Int), behind)
          else ((0 : Int), behind)
      | [] => ((0 : Int), [])
    let mantissa := (Raw.digits? (whole ++ fraction)).getD 0
    let exponent := max (-100000) (min 100000 (power - fraction.length))
    let x := if exponent < 0 then Float.ofScientific mantissa true exponent.natAbs
      else Float.ofScientific mantissa false exponent.toNat
    some (signed x, behind)

/-- The floating-point number that a whole text writes. -/
def float? (text : Raw) : Option Float :=
  match leading? text with
  | some (x, rest) => if rest.all Raw.isBlank then some x else none
  | none => none

end Bootstrap.Decimal
