import Bootstrap.CommandLine.Grammar
import Bootstrap.CommandLine.Wording

/-!
# Help texts

A help text says what something is for, how it is called, and what words go with
it.  The words stand in a column that is as wide as the longest of them.
-/

namespace Bootstrap.CommandLine

/-- What help is asked for. -/
inductive Topic where
  | level (l : Level)
  /-- The help word itself. -/
  | help
  deriving DecidableEq, Repr

namespace Topic

/-- A word or an option, and what it is for. -/
abbrev Row : Type := Wording × String

/-- A word that is typed. -/
def typed (word : String) : Piece := .marked .typed word

/-- The row of an option.  Options without a letter are indented to line up with the others. -/
def ofOption (o : Opt) : Row :=
  ((match o.form.short with
    | some letter => [typed ("-" ++ letter.toString), .plain ", "]
    | none => [.plain "    "]) ++ [typed o.name, .plain o.valueLabel], o.form.summary)

/-- Rows under a title, after an empty line. -/
def table (title : String) (rows : List Row) : Wording :=
  let width := (rows.map (·.1.width)).foldl max 0
  [.plain "\n", .marked .title (title ++ ":"), .plain "\n"] ++ rows.flatMap fun (word, use) =>
    .plain "  " :: word.padded width ++ [.plain ("  " ++ use ++ "\n")]

/-- What is explained. -/
def summary : Topic → String
  | level .program => programSummary
  | level (.command name) => name.summary
  | help => helpSummary

/-- How it is called. -/
def usage : Topic → Wording
  | level .program => [typed programName, .plain " [OPTIONS] [COMMAND]"]
  | level (.command name) => [typed (programName ++ " " ++ name.word), .plain " [OPTIONS]"]
  | help => [typed (programName ++ " " ++ helpWord), .plain " [COMMAND]..."]

/-- The commands, the help word last. -/
def commandRows : List Row :=
  CommandName.all.map (fun name => ([typed name.word], name.summary)) ++
    [([typed helpWord], helpSummary)]

/-- The words that go with it. -/
def details : Topic → Wording
  | level l =>
      (match l with
        | .program => table "Commands" commandRows
        | .command _ => []) ++ table "Options" (l.options.map ofOption)
  | help => table "Arguments" [([.plain "[COMMAND]..."], "Print help for the subcommand(s)")]

/-- The help text. -/
def wording (t : Topic) : Wording :=
  [.plain (t.summary ++ "\n\n"), .marked .title "Usage:", .plain " "] ++ t.usage ++
    .plain "\n" :: t.details

end Topic

end Bootstrap.CommandLine
