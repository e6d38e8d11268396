import Bootstrap.Text.Raw

/-!
# Dates and times

An instant is a number of seconds since the beginning of 1970; its date is the one of
universal time.  Dates are written in a format of directives, and read from some of the
usual ways to write them.
-/

namespace Bootstrap.Calendar

/-- The seconds of a day. -/
def daySeconds : Int := 86400

/-- A date with a time of day. -/
structure Moment where
  year : Int
  month : Nat
  day : Nat
  hour : Nat
  minute : Nat
  second : Nat
  deriving DecidableEq, Repr

/-- The number of days from the beginning of 1970 to a date.  Years are counted from March on, so
that the day more of a leap year is the last one. -/
def daysTo (year : Int) (month day : Nat) : Int :=
  let y := if month ≤ 2 then year - 1 else year
  let era := y.fdiv 400
  let yearOfEra := y - era * 400
  let monthFromMarch : Int := (month + 9) % 12
  let dayOfYear := (153 * monthFromMarch + 2) / 5 + day - 1
  let dayOfEra := yearOfEra * 365 + yearOfEra / 4 - yearOfEra / 100 + dayOfYear
  era * 146097 + dayOfEra - 719468

/-- The date that is so many days after the beginning of 1970. -/
def dateOf (days : Int) : Int × Nat × Nat :=
  let z := days + 719468
  let era := z.fdiv 146097
  let dayOfEra := z - era * 146097
  let yearOfEra := (dayOfEra - dayOfEra / 1460 + dayOfEra / 36524 - dayOfEra / 146096) / 365
  let dayOfYear := dayOfEra - (365 * yearOfEra + yearOfEra / 4 - yearOfEra / 100)
  let monthFromMarch := (5 * dayOfYear + 2) / 153
  let day := dayOfYear - (153 * monthFromMarch + 2) / 5 + 1
  let month := if monthFromMarch < 10 then monthFromMarch + 3 else monthFromMarch - 9
  let year := yearOfEra + era * 400
  (if month ≤ 2 then year + 1 else year, month.toNat, day.toNat)

/-- The date and the time of an instant. -/
def Moment.ofSeconds (seconds : Int) : Moment :=
  let days := seconds.fdiv daySeconds
  let rest := (seconds - days * daySeconds).toNat
  let (year, month, day) := dateOf days
  ⟨year, month, day, rest / 3600, rest / 60 % 60, rest % 60⟩

/-- The instant of a date and a time. -/
def Moment.seconds (m : Moment) : Int :=
  daysTo m.year m.month m.day * daySeconds + m.hour * 3600 + m.minute * 60 + m.second

/-- The names of the months. -/
def monthNames : List String :=
  ["January", "February", "March", "April", "May", "June", "July", "August", "September",
    "October", "November", "December"]

/-- The names of the days of a week, which begins with Sunday. -/
def dayNames : List String :=
  ["Sunday", "Monday", "Tuesday", "Wednesday", "Thursday", "Friday", "Saturday"]

/-- The day of the week of an instant, counted from Sunday. -/
def weekday (seconds : Int) : Nat := ((seconds.fdiv daySeconds + 4).fmod 7).toNat

/-- The day of the year of a moment, counted from one. -/
def Moment.dayOfYear (m : Moment) : Nat :=
  (daysTo m.year m.month m.day - daysTo m.year 1 1).toNat + 1

/-- The year and the week of a date, in which weeks begin on Monday and belong to the year of their
Thursday. -/
def Moment.week (m : Moment) : Int × Nat :=
  let days := daysTo m.year m.month m.day
  let fromMonday := (days + 3).fmod 7
  let (year, _, _) := dateOf (days - fromMonday + 3)
  (year, ((days - fromMonday + 3 - daysTo year 1 1) / 7).toNat + 1)

/-- Two digits, or more. -/
def two (n : Nat) : Raw := Raw.padLeft 2 (Raw.ofNat n) '0'

/-- The text of a directive for an instant in nanoseconds. -/
def directive? (nanoseconds : Int) (letter : Char) : Option Raw :=
  let seconds := nanoseconds.fdiv 1000000000
  let m := Moment.ofSeconds seconds
  let name := fun (names : List String) (i : Nat) => raw (names.getD i "")
  let date := Raw.ofInt m.year ++ '-' :: two m.month ++ '-' :: two m.day
  let clock := two m.hour ++ ':' :: two m.minute ++ ':' :: two m.second
  let twelve := if m.hour % 12 = 0 then 12 else m.hour % 12
  let shortDate := two m.month ++ '/' :: two m.day ++ '/' :: two (m.year % 100).toNat
  match letter with
  | 'Y' => some (Raw.ofInt m.year)
  | 'm' => some (two m.month)
  | 'd' => some (two m.day)
  | 'e' => some (Raw.padLeft 2 (Raw.ofNat m.day) ' ')
  | 'H' => some (two m.hour)
  | 'k' => some (Raw.padLeft 2 (Raw.ofNat m.hour) ' ')
  | 'I' => some (two twelve)
  | 'l' => some (Raw.padLeft 2 (Raw.ofNat twelve) ' ')
  | 'M' => some (two m.minute)
  | 'S' => some (two m.second)
  | 'N' => some (Raw.padLeft 9 (Raw.ofNat (nanoseconds.fmod 1000000000).toNat) '0')
  | 's' => some (Raw.ofInt seconds)
  | 'F' => some date
  | 'T' | 'X' => some clock
  | 'R' => some (two m.hour ++ ':' :: two m.minute)
  | 'D' | 'x' => some shortDate
  | 'y' => some (two (m.year % 100).toNat)
  | 'C' => some (two (m.year / 100).toNat)
  | 'j' => some (Raw.padLeft 3 (Raw.ofNat m.dayOfYear) '0')
  | 'a' => some ((name dayNames (weekday seconds)).take 3)
  | 'A' => some (name dayNames (weekday seconds))
  | 'b' | 'h' => some ((name monthNames (m.month - 1)).take 3)
  | 'B' => some (name monthNames (m.month - 1))
  | 'u' => some (Raw.ofNat (if weekday seconds = 0 then 7 else weekday seconds))
  | 'w' => some (Raw.ofNat (weekday seconds))
  | 'p' => some (raw (if m.hour < 12 then "AM" else "PM"))
  | 'P' => some (raw (if m.hour < 12 then "am" else "pm"))
  | 'r' => some (two twelve ++ ':' :: two m.minute ++ ':' :: two m.second ++
      raw (if m.hour < 12 then " AM" else " PM"))
  | 'c' => some ((name dayNames (weekday seconds)).take 3 ++ ' ' ::
      (name monthNames (m.month - 1)).take 3 ++ ' ' :: Raw.padLeft 2 (Raw.ofNat m.day) ' ' ++
      ' ' :: clock ++ ' ' :: Raw.ofInt m.year)
  | 'G' => some (Raw.ofInt m.week.1)
  | 'V' => some (two m.week.2)
  | 'U' => some (two ((m.dayOfYear + 6 - weekday seconds) / 7))
  | 'W' => some (two ((m.dayOfYear + 6 - (weekday seconds + 6) % 7) / 7))
  | 'q' => some (Raw.ofNat ((m.month - 1) / 3 + 1))
  | 'Z' => some (raw "UTC")
  | 'z' => some (raw "+0000")
  | 'n' => some ['\n']
  | 't' => some ['\t']
  | '%' => some ['%']
  | _ => none

/-- The text of a directive without padding, or with another one. -/
def repadded (flag : Option Char) (text : Raw) : Raw :=
  match flag with
  | some '-' =>
      let cut := text.dropWhile fun c => c == '0' || c == ' '
      if cut.isEmpty ∨ !text.all (fun c => c.isDigit || c == ' ') then
        if text.all fun c => c == '0' then ['0'] else text
      else cut
  | some '_' =>
      let zeros := (text.dropLast.takeWhile (· == '0')).length
      List.replicate zeros ' ' ++ text.drop zeros
  | some '^' => Raw.upper text
  | some '0' => text.map fun c => if c = ' ' then '0' else c
  | _ => text

/-- An instant in a format; `fuel` bounds the number of directives. -/
def format (nanoseconds : Int) : (fuel : Nat) → Raw → Raw
  | 0, _ | _, [] => []
  | fuel + 1, '%' :: rest =>
      let (flag, rest) := match rest with
        | c :: more => if "-_0^".toList.contains c then (some c, more) else (none, rest)
        | [] => (none, [])
      let (colons, rest) := (rest.takeWhile (· == ':'), rest.dropWhile (· == ':'))
      let width := rest.takeWhile Char.isDigit
      let rest := rest.drop width.length
      match rest with
      | [] => '%' :: (flag.toList ++ colons ++ width)
      | c :: more =>
          match directive? nanoseconds c with
          | some text =>
              let text := if c = 'z' ∧ !colons.isEmpty then raw "+00:00" else text
              let text := repadded flag text
              let shown := match Raw.digits? width with
                | some n => if c = 'N' then text.take n else Raw.padLeft n text (if flag = some '_' then ' ' else '0')
                | none => text
              shown ++ format nanoseconds fuel more
          | none => '%' :: (flag.toList ++ colons ++ width) ++ c :: format nanoseconds fuel more
  | fuel + 1, c :: rest => c :: format nanoseconds fuel rest

/-! ## Reading -/

/-- Numbers between separators. -/
def numbers? (separator : Char) (text : Raw) : Option (List Nat) :=
  (text.splitOn separator).mapM Raw.digits?

/-- A time of day as it is written, in nanoseconds. -/
def clock? (text : Raw) : Option Int := do
  let (whole, fraction) := (text.takeWhile (· ≠ '.'), (text.dropWhile (· ≠ '.')).drop 1)
  let parts ← numbers? ':' whole
  let nanoseconds ← if fraction.isEmpty then some 0
    else Raw.digits? (Raw.padRight 9 (fraction.take 9) '0')
  match parts with
  | [h, m] => if h < 24 ∧ m < 60 then return ((h * 60 + m) * 60 : Nat) * 1000000000 else none
  | [h, m, s] =>
      if h < 24 ∧ m < 60 ∧ s ≤ 60 then
        return ((h * 60 + m) * 60 + s : Nat) * 1000000000 + (nanoseconds : Int)
      else none
  | _ => none

/-- The days to a date as it is written. -/
def date? (text : Raw) : Option Int :=
  match numbers? '-' text, numbers? '/' text with
  | some [y, m, d], _ => valid y m d
  | _, some [a, b, c] => if 31 < a then valid a b c else valid c a b
  | _, _ =>
      match Raw.digits? text with
      | some n => if text.length = 8 then valid (n / 10000) (n / 100 % 100) (n % 100) else none
      | none => none
where
  /-- The days to a date that exists. -/
  valid (y m d : Nat) : Option Int :=
    let days := daysTo y m d
    if 1 ≤ m ∧ m ≤ 12 ∧ 1 ≤ d ∧ dateOf days = ((y : Int), m, d) then some days else none

/-- The seconds of a unit of time. -/
def unit? (word : Raw) : Option Int :=
  let word := Raw.lower word
  let word := if word.getLast? = some 's' ∧ 1 < word.length then word.dropLast else word
  match Raw.toString word with
  | "sec" | "second" => some 1
  | "min" | "minute" => some 60
  | "hour" => some 3600
  | "day" => some 86400
  | "week" => some 604800
  | "fortnight" => some 1209600
  | _ => none

/-- What was read of a date: its days, its time of day, and what is added, in nanoseconds. -/
structure Parts where
  days : Option Int
  time : Option Int
  added : Int

/-- Reads the words of a date; `now` is the present in nanoseconds. -/
def words? (now : Int) : (fuel : Nat) → Parts → List Raw → Option Parts
  | 0, _, _ => none
  | _ + 1, p, [] => some p
  | fuel + 1, p, word :: rest =>
      let today := (now.fdiv 1000000000).fdiv daySeconds
      let plus := fun (seconds : Int) => { p with added := p.added + seconds * 1000000000 }
      match Raw.toString (Raw.lower word) with
      | "now" | "today" => words? now fuel p rest
      | "utc" | "gmt" | "z" => words? now fuel p rest
      | "yesterday" => words? now fuel (plus (-86400)) rest
      | "tomorrow" => words? now fuel (plus 86400) rest
      | "midnight" => words? now fuel { p with time := some 0 } rest
      | "noon" => words? now fuel { p with time := some (43200 * 1000000000) } rest
      | _ =>
          match date? word, clock? (if word.getLast? = some 'Z' then word.dropLast else word) with
          | some days, _ =>
              words? now fuel { p with days := some days, time := p.time.or (some 0) } rest
          | none, some time =>
              words? now fuel { p with time := some time, days := p.days.or (some today) } rest
          | none, none =>
              match word.splitOn 'T' with
              | [date, clock] =>
                  if date.isEmpty then none
                  else words? now fuel { p with days := none } (date :: clock :: rest)
              | _ =>
                  match Raw.int? word, rest with
                  | some n, unit :: more =>
                      match unit? unit, more with
                      | some s, ago :: more' =>
                          if Raw.lower ago = raw "ago" then words? now fuel (plus (-n * s)) more'
                          else words? now fuel (plus (n * s)) more
                      | some s, [] => words? now fuel (plus (n * s)) more
                      | none, _ => none
                  | _, _ =>
                      match unit? word, rest with
                      | some s, ago :: more =>
                          if Raw.lower ago = raw "ago" then words? now fuel (plus (-s)) more else none
                      | _, _ => none

/-- The instant that a text means, in nanoseconds. -/
def instant? (now : Int) (text : Raw) : Option Int :=
  match Raw.trim text with
  | '@' :: seconds =>
      let whole := seconds.takeWhile (· ≠ '.')
      let fraction := (seconds.drop whole.length).drop 1
      match Raw.int? whole, if fraction.isEmpty then some 0
          else Raw.digits? (Raw.padRight 9 (fraction.take 9) '0') with
      | some n, some f => some (n * 1000000000 + f)
      | _, _ => none
  | trimmed =>
      let words := ((trimmed.map fun c => if Raw.isBlank c then ' ' else c).splitOn ' ').filter (!·.isEmpty)
      (words? now (2 * words.length + 8) ⟨none, none, 0⟩ words).map fun p =>
        match p.days with
        | some days => days * daySeconds * 1000000000 + p.time.getD 0 + p.added
        | none =>
            match p.time with
            | some time => (now.fdiv 1000000000).fdiv daySeconds * daySeconds * 1000000000 + time + p.added
            | none => if words.isEmpty then
                (now.fdiv 1000000000).fdiv daySeconds * daySeconds * 1000000000
              else now + p.added

/-- The instant that a stamp of digits means: month, day, hour and minute, with the year in front and
seconds behind a point. -/
def stamp? (now : Int) (text : Raw) : Option Int := do
  let digits := text.takeWhile Char.isDigit
  let seconds ← match text.drop digits.length with
    | [] => some 0
    | '.' :: rest => if rest.length = 2 then Raw.digits? rest else none
    | _ => none
  let n ← Raw.digits? digits
  let current := (Moment.ofSeconds (now.fdiv 1000000000)).year
  let year ← match digits.length with
    | 8 => some current
    | 10 =>
        let y := n / 100000000
        some (if y < 69 then 2000 + (y : Int) else 1900 + (y : Int))
    | 12 => some ((n / 100000000 : Nat) : Int)
    | _ => none
  let m : Moment := ⟨year, n / 1000000 % 100, n / 10000 % 100, n / 100 % 100, n % 100, seconds⟩
  if 1 ≤ m.month ∧ m.month ≤ 12 ∧ m.hour < 24 ∧ m.minute < 60 ∧
      Moment.ofSeconds m.seconds = m then
    return m.seconds * 1000000000
  else none

end Bootstrap.Calendar
