/-!
# Options and commands

The words of the command line: what options there are, what each command is for,
and which options are understood where.  The reader and the help texts both work
from these tables, so what is accepted is what is described.
-/

namespace Bootstrap.CommandLine

/-- The name under which the program is called. -/
def programName : String := "oftb-boot"

/-- The version of the program. -/
def programVersion : String := "0.1.0"

/-- What the program is for. -/
def programSummary : String := "oftb-boot - Bootstrap and verify the self-hosted oftb toolchain"

/-- The word that asks for a help text. -/
def helpWord : String := "help"

/-- What that word is for. -/
def helpSummary : String := "Print this message or the help of the given subcommand(s)"

/-- How the results are printed. -/
inductive OutputFormat where
  | text
  | json
  deriving DecidableEq, Repr

namespace OutputFormat

/-- All formats. -/
def all : List OutputFormat := [text, json]

/-- The word for a format. -/
def word : OutputFormat → String
  | text => "text"
  | json => "json"

/-- The format that a word means. -/
def ofWord? (w : String) : Option OutputFormat := all.find? (·.word = w)

end OutputFormat

/-- An option. -/
inductive Opt where
  | root
  | noToolchainBuild
  | useSystemToolchain
  | toolchain
  | verbose
  | quietToolchain
  | output
  | noArchive
  | archive
  | aux
  | prebuilt
  | help
  | version
  deriving DecidableEq, Repr

/-- What follows an option. -/
inductive ValueKind where
  /-- Nothing. -/
  | switch
  /-- A path, which is not empty. -/
  | path (name : String)
  /-- An output format. -/
  | format (name : String)
  /-- Any text. -/
  | text (name : String)
  deriving DecidableEq, Repr

namespace ValueKind

/-- The name of the value in help texts. -/
def name? : ValueKind → Option String
  | switch => none
  | path name | format name | text name => some name

end ValueKind

/-- How an option is written and what it is for. -/
structure OptForm where
  /-- The name behind two dashes. -/
  long : String
  /-- The letter behind one dash. -/
  short : Option Char
  value : ValueKind
  summary : String
  deriving DecidableEq, Repr

namespace Opt

/-- The form of every option. -/
def form : Opt → OptForm
  | root => ⟨"root", none, .path "ROOT",
      "Root of the oftb source tree (default: $OFTB_BOOTSTRAP_ROOT or the current directory)"⟩
  | noToolchainBuild => ⟨"no-toolchain-build", none, .switch,
      "Reuse target/release/oftb instead of building it"⟩
  | useSystemToolchain => ⟨"use-system-toolchain", none, .switch, "Use the oftb found on PATH"⟩
  | toolchain => ⟨"toolchain", none, .path "TOOLCHAIN", "Use this pre-built oftb binary"⟩
  | verbose => ⟨"verbose", some 'v', .switch, "Echo every command line and enable debug logging"⟩
  | quietToolchain => ⟨"quiet-toolchain", none, .switch, "Do not pass -v to the toolchain"⟩
  | output => ⟨"output", some 'o', .format "OUTPUT",
      "Output format [default: text] [possible values: " ++
        ", ".intercalate (OutputFormat.all.map OutputFormat.word) ++ "]"⟩
  | noArchive => ⟨"no-archive", none, .switch, "Skip writing the distribution archive"⟩
  | archive => ⟨"archive", none, .path "ARCHIVE", "Archive path (default: <root>/oftb.tar.gz)"⟩
  | aux => ⟨"aux", none, .text "BINARY",
      "Additional macro-expander entry point to compile after promotion (repeatable)"⟩
  | prebuilt => ⟨"prebuilt", none, .switch,
      "Drive the expander through its promoted artifact instead of from source"⟩
  | help => ⟨"help", some 'h', .switch, "Print help"⟩
  | version => ⟨"version", some 'V', .switch, "Print version"⟩

/-- Whether a value follows the option. -/
def takesValue (o : Opt) : Bool := o.form.value.name?.isSome

/-- Whether the option may be given several times. -/
def repeats (o : Opt) : Bool := o == aux

/-- The option that this one cannot be given with. -/
def rival? : Opt → Option Opt
  | useSystemToolchain => some toolchain
  | toolchain => some useSystemToolchain
  | noArchive => some archive
  | archive => some noArchive
  | _ => none

/-- The option as it is typed. -/
def name (o : Opt) : String := "--" ++ o.form.long

/-- How texts name the value of the option. -/
def valueLabel (o : Opt) : String :=
  match o.form.value.name? with
  | some name => " <" ++ name ++ ">"
  | none => ""

/-- The option as texts name it. -/
def label (o : Opt) : String := o.name ++ o.valueLabel

/-- The options that are understood before and behind every command. -/
def shared : List Opt :=
  [root, noToolchainBuild, useSystemToolchain, toolchain, verbose, quietToolchain, output]

end Opt

/-- A command. -/
inductive CommandName where
  | bootstrap
  | fixpoint
  | selfTest
  | package
  deriving DecidableEq, Repr

namespace CommandName

/-- All commands, in the order in which they are listed. -/
def all : List CommandName := [bootstrap, fixpoint, selfTest, package]

/-- The word for a command. -/
def word : CommandName → String
  | bootstrap => "bootstrap"
  | fixpoint => "fixpoint"
  | selfTest => "self-test"
  | package => "package"

/-- What a command is for. -/
def summary : CommandName → String
  | bootstrap => "Build the toolchain, run the whole bootstrap and package the result (default)"
  | fixpoint => "Only run the triple-compile fixpoint check and promote the result"
  | selfTest => "Only run the macro-expander self-test"
  | package => "Only write the distribution archive"

/-- The command that a word means. -/
def ofWord? (w : String) : Option CommandName := all.find? (·.word = w)

/-- The options of a command alone. -/
def ownOptions : CommandName → List Opt
  | bootstrap => [.noArchive, .archive, .aux]
  | fixpoint => []
  | selfTest => [.prebuilt]
  | package => [.archive]

end CommandName

/-- A stretch of the command line: before a command, or behind it. -/
inductive Level where
  | program
  | command (name : CommandName)
  deriving DecidableEq, Repr

/-- The elements of two lists in turn, and the rest of the longer one. -/
def inTurn {α : Type} : List α → List α → List α
  | [], ys => ys
  | xs, [] => xs
  | x :: xs, y :: ys => x :: y :: inTurn xs ys

namespace Level

/-- The options that are understood at a level, in the order in which they are listed. -/
def options : Level → List Opt
  | program => Opt.shared ++ [.help, .version]
  | command name => inTurn name.ownOptions Opt.shared ++ [.help]

/-- The option with a name. -/
def long? (l : Level) (name : String) : Option Opt := l.options.find? (·.form.long = name)

/-- The option with a letter. -/
def short? (l : Level) (letter : Char) : Option Opt :=
  l.options.find? (·.form.short = some letter)

end Level

end Bootstrap.CommandLine
