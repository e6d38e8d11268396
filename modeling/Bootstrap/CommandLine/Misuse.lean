import Bootstrap.CommandLine.Grammar
import Bootstrap.CommandLine.Wording

/-!
# Misuse of the command line

Why the words of a command line make no sense.  Option names are shown as they
are listed, with the name of their value; other words as they were given.
-/

namespace Bootstrap.CommandLine

/-- Why a command line was refused. -/
inductive Misuse where
  /-- A word or an option that is not understood here. -/
  | unexpected (word : String)
  | unknownCommand (word : String)
  /-- A value that the option does not take. -/
  | invalidValue (value : String) (option : Opt)
  /-- No value, or an empty one, where one has to stand. -/
  | missingValue (option : Opt)
  /-- A value behind an option that takes none. -/
  | surplusValue (value : String) (option : Opt)
  | repeated (option : Opt)
  /-- Two options that exclude each other, the one given first in front. -/
  | conflict (first second : Opt)
  deriving DecidableEq, Repr

namespace Misuse

/-- A text in quotes, set off. -/
def quoted (emphasis : Emphasis) (s : String) : Wording :=
  [.plain "'", .marked emphasis s, .plain "'"]

/-- What was refused, in quotes. -/
def refused (s : String) : Wording := quoted .refused s

/-- What is wrong. -/
def message : Misuse → Wording
  | unexpected word => [.plain "unexpected argument "] ++ refused word ++ [.plain " found"]
  | unknownCommand word => [.plain "unrecognized subcommand "] ++ refused word
  | invalidValue value option =>
      [.plain "invalid value "] ++ refused value ++ [.plain " for "] ++ quoted .typed option.label
  | missingValue option =>
      [.plain "a value is required for "] ++ refused option.label ++
        [.plain " but none was supplied"]
  | surplusValue value option =>
      [.plain "unexpected value "] ++ refused value ++ [.plain " for "] ++
        quoted .typed option.label ++ [.plain " found; no more were expected"]
  | repeated option =>
      [.plain "the argument "] ++ refused option.label ++
        [.plain " cannot be used multiple times"]
  | conflict first second =>
      [.plain "the argument "] ++ refused first.label ++ [.plain " cannot be used with "] ++
        refused second.label

/-- The lines that are shown. -/
def lines (m : Misuse) : List Wording :=
  [[.marked .wrong "error:", .plain " "] ++ m.message, [],
    [.plain "For more information, try "] ++ quoted .typed "--help" ++ [.plain "."]]

end Misuse

end Bootstrap.CommandLine
