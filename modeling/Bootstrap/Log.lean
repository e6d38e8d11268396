import Bootstrap.Bytes

/-!
# Log records

A record has a level, the part of the program it comes from, a message and named
values.  A filter says which records are shown.
-/

namespace Bootstrap

/-- How much a record matters. -/
inductive LogLevel where
  | error
  | warn
  | info
  | debug
  | trace
  deriving DecidableEq, Repr

namespace LogLevel

/-- The more a level says, the higher its rank. -/
def rank : LogLevel → Nat
  | error => 1
  | warn => 2
  | info => 3
  | debug => 4
  | trace => 5

/-- The name of the level, aligned to the right in five columns. -/
def label : LogLevel → String
  | error => "ERROR"
  | warn => " WARN"
  | info => " INFO"
  | debug => "DEBUG"
  | trace => "TRACE"

/-- The number of the colour that the level has where colours are shown. -/
def colour : LogLevel → Nat
  | error => 31
  | warn => 33
  | info => 32
  | debug => 34
  | trace => 35

end LogLevel

/-- One event in the log. -/
structure LogRecord where
  level : LogLevel
  /-- The part of the program that speaks. -/
  source : String
  message : String
  /-- Names and values, in order; the values as they are printed. -/
  fields : List (String × String)
  deriving DecidableEq, Repr

namespace LogRecord

/-- A character of a message, as it is shown.  One that a terminal could take for a command is
written by its number. -/
def shownChar (c : Char) : String :=
  let n := c.toNat
  if n = 0x07 then "\\x07"
  else if n = 0x08 then "\\x08"
  else if n = 0x0C then "\\x0c"
  else if n = 0x1B then "\\x1b"
  else if n = 0x7F then "\\x7f"
  else if 0x80 ≤ n ∧ n ≤ 0x9F then "\\u\x7b" ++ String.ofList (Nat.toDigits 16 n) ++ "\x7d"
  else c.toString

/-- A message as it is shown. -/
def shownMessage (s : String) : String := String.join (s.toList.map shownChar)

/-- A text set off by a terminal's command with a number. -/
def setOff (coloured : Bool) (number : Nat) (s : String) : String :=
  if coloured then "\x1b[" ++ toString number ++ "m" ++ s ++ "\x1b[0m" else s

/-- The line that shows the record.  With colours the level has one, the source is faint, and the
names of values are slanted. -/
def line (coloured : Bool) (r : LogRecord) : String :=
  let faint := setOff coloured 2
  setOff coloured r.level.colour r.level.label ++ " " ++ faint r.source ++ faint ":" ++ " " ++
    shownMessage r.message ++
    String.join (r.fields.map fun (name, value) =>
      " " ++ setOff coloured 3 name ++ faint "=" ++ value)

/-- Whether the record has a value of that name; its message is one. -/
def hasField (r : LogRecord) (name : String) : Bool :=
  name == "message" || r.fields.any (·.1 == name)

end LogRecord

/-- A rule of a filter: records from sources that begin with `source`, if it says one, and with all
the values that it names, are shown up to a rank. -/
structure LogRule where
  source : Option String
  fields : List String
  rank : Nat
  deriving DecidableEq, Repr

namespace LogRule

/-- Whether the rule is about a record. -/
def covers (rule : LogRule) (r : LogRecord) : Bool :=
  (match rule.source with
    | some source => source.toList.isPrefixOf r.source.toList
    | none => true) && rule.fields.all r.hasField

/-- How much a rule says: the length of its source, one that says none coming first, and how many
values it names. -/
def weight (rule : LogRule) : Nat × Nat :=
  (match rule.source with
    | some source => source.utf8ByteSize + 1
    | none => 0, rule.fields.length)

/-- Whether a rule counts before another: it says more, or it says as much and comes later in the
order of the names. -/
def outweighs (a b : LogRule) : Bool :=
  let (m, n) := (a.weight, b.weight)
  n.1 < m.1 || (n.1 == m.1 && (n.2 < m.2 || (n.2 == m.2 && decide (b.fields < a.fields))))

end LogRule

/-- Which records are shown: of the rules about a record, the one that says most decides. -/
structure LogFilter where
  rules : List LogRule
  deriving DecidableEq, Repr

namespace LogFilter

/-- Shows every source up to a level. -/
def upTo (level : LogLevel) : LogFilter := ⟨[⟨none, [], level.rank⟩]⟩

/-- The rule that decides about a record; of two that say the same, the later. -/
def ruleFor (f : LogFilter) (r : LogRecord) : Option LogRule :=
  f.rules.foldl (fun best rule =>
    if rule.covers r then
      match best with
      | some b => if b.outweighs rule then best else some rule
      | none => some rule
    else best) none

/-- Whether a record is shown. -/
def shows (f : LogFilter) (r : LogRecord) : Bool :=
  match f.ruleFor r with
  | some rule => r.level.rank ≤ rule.rank
  | none => false

end LogFilter

end Bootstrap
