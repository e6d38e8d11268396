import Bootstrap.Rounding

/-!
# Sizes for people

A size below one kilobyte is an exact number of bytes.  Above, it is a number of
kilobytes, megabytes or gigabytes with one decimal.  The unit is chosen on the
double nearest to the size, before the number is rounded.
-/

namespace Bootstrap.Report

/-- The units a size is shown in. -/
inductive SizeUnit where
  | byte
  | kilobyte
  | megabyte
  | gigabyte
  deriving DecidableEq, Repr

namespace SizeUnit

/-- The bytes in one unit. -/
def bytes : SizeUnit → Nat
  | byte => 1
  | kilobyte => 1024
  | megabyte => 1024 * 1024
  | gigabyte => 1024 * 1024 * 1024

/-- The name behind the number. -/
def label : SizeUnit → String
  | byte => "B"
  | kilobyte => "KB"
  | megabyte => "MB"
  | gigabyte => "GB"

/-- The largest unit that a size of at least one kilobyte fills, given as a double. -/
def ofDouble (d : Nat) : SizeUnit :=
  if d < megabyte.bytes then kilobyte
  else if d < gigabyte.bytes then megabyte
  else gigabyte

end SizeUnit

/-- A size as it is shown: a number of tenths of a unit. -/
structure ShownSize where
  tenths : Nat
  unit : SizeUnit
  deriving DecidableEq, Repr

namespace ShownSize

/-- What is shown for a size in bytes. -/
def ofBytes (n : Nat) : ShownSize :=
  if n < 1024 then ⟨10 * n, .byte⟩
  else
    let d := Rounding.nearestDouble n
    let unit := SizeUnit.ofDouble d
    ⟨Rounding.nearestDiv (10 * d) unit.bytes, unit⟩

/-- Bytes are whole; every other unit has one decimal. -/
def print (s : ShownSize) : String :=
  match s.unit with
  | .byte => toString (s.tenths / 10) ++ " " ++ s.unit.label
  | _ => toString (s.tenths / 10) ++ "." ++ toString (s.tenths % 10) ++ " " ++ s.unit.label

end ShownSize

/-- The text of a size in bytes. -/
def sizeText (bytes : Nat) : String := (ShownSize.ofBytes bytes).print

end Bootstrap.Report
