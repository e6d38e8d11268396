/-!
# Durations for people

Below a second a duration is shown in milliseconds, below a minute in seconds
with two decimals, above in minutes and seconds.  Nothing is rounded up.
-/

namespace Bootstrap.Report

/-- A span of time. -/
structure Duration where
  seconds : Nat
  /-- Below one thousand million. -/
  nanoseconds : Nat
  deriving DecidableEq, Repr

namespace Duration

/-- The span of some seconds and any number of nanoseconds. -/
def ofParts (seconds nanoseconds : Nat) : Duration :=
  ⟨seconds + nanoseconds / 1000000000, nanoseconds % 1000000000⟩

/-- The whole milliseconds past the last full second. -/
def milliseconds (d : Duration) : Nat := d.nanoseconds / 1000000

/-- A number of two digits. -/
def twoDigits (n : Nat) : String := if n < 10 then "0" ++ toString n else toString n

/-- The text of a duration. -/
def text (d : Duration) : String :=
  if d.seconds = 0 then toString d.milliseconds ++ "ms"
  else if d.seconds < 60 then
    toString d.seconds ++ "." ++ twoDigits (d.milliseconds / 10) ++ "s"
  else toString (d.seconds / 60) ++ "m " ++ toString (d.seconds % 60) ++ "s"

end Duration

end Bootstrap.Report
