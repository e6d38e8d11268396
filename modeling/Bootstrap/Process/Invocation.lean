import Bootstrap.Errno
import Bootstrap.Path
import Bootstrap.Text.Blank
import Bootstrap.Text.Utf8

/-!
# Invocations and their command lines

An invocation is a program with its arguments and the directory it starts in.
Its command line is made for people: words stand apart by single blanks, and a
word that is empty, or holds blanks or quotes, is quoted.  `wordsOf` reads a
command line back, so two invocations that look alike have the same words.
-/

namespace Bootstrap

/-- A program to start. -/
structure Invocation where
  program : Path
  arguments : List String
  /-- The directory it starts in; without one it starts where its parent is. -/
  directory : Option Path
  deriving DecidableEq, Repr

namespace CommandLine

/-- Whether a word can stand as it is. -/
def isPlain (word : List Char) : Bool :=
  !word.isEmpty && !word.any fun c => Text.isBlank c || c == '\'' || c == '"'

/-- A single quote inside a quoted word: the quotation ends, an escaped quote follows, and a new
quotation begins. -/
def quoteChar (c : Char) : List Char := if c = '\'' then ['\'', '\\', '\'', '\''] else [c]

/-- A word as it stands in a command line. -/
def quoteWord (word : List Char) : List Char :=
  if isPlain word then word else '\'' :: word.flatMap quoteChar ++ ['\'']

/-- Words as a command line. -/
def ofWords (words : List (List Char)) : List Char :=
  List.intercalate [' '] (words.map quoteWord)

/-- Where a reader of a command line stands. -/
inductive Place where
  /-- Outside of quotes. -/
  | outside
  /-- Between quotes. -/
  | inside
  /-- Directly behind a closing quote. -/
  | behind
  deriving DecidableEq, Repr

/-- Reads words; `word` holds the characters of the present one, the latest first. -/
def readWords : Place → (word : List Char) → List Char → List (List Char)
  | _, word, [] => [word.reverse]
  | .inside, word, c :: rest =>
      if c = '\'' then readWords .behind word rest else readWords .inside (c :: word) rest
  | .behind, word, '\\' :: '\'' :: rest => readWords .outside ('\'' :: word) rest
  | .outside, word, c :: rest | .behind, word, c :: rest =>
      if c = ' ' then word.reverse :: readWords .outside [] rest
      else if c = '\'' then readWords .inside word rest
      else readWords .outside (c :: word) rest

/-- The words of a command line. -/
def wordsOf (line : List Char) : List (List Char) := readWords .outside [] line

end CommandLine

namespace Invocation

/-- The program and its arguments. -/
def words (i : Invocation) : List String := i.program.text :: i.arguments

/-- The command line. -/
def commandLine (i : Invocation) : String :=
  String.ofList (CommandLine.ofWords (i.words.map String.toList))

/-- An invocation is shown as its command line. -/
instance : ToString Invocation := ⟨commandLine⟩

/-- A program without arguments. -/
def ofProgram (program : Path) : Invocation := ⟨program, [], none⟩

/-- Adds one argument. -/
def argument (i : Invocation) (a : String) : Invocation :=
  { i with arguments := i.arguments ++ [a] }

/-- Adds arguments. -/
def withArguments (i : Invocation) (more : List String) : Invocation :=
  { i with arguments := i.arguments ++ more }

/-- Sets the directory to start in. -/
def startingIn (i : Invocation) (directory : Path) : Invocation :=
  { i with directory := some directory }

/-- Whether a word holds the null character, which no program can be given. -/
def hasNull (i : Invocation) : Bool :=
  i.program.hasNull || i.arguments.any (fun a => a.toList.any fun c => c.toNat == 0) ||
    (i.directory.map Path.hasNull).getD false

end Invocation

/-- What becomes of the standard output of a program. -/
inductive Capture where
  /-- It goes where that of the parent goes. -/
  | inherit
  /-- It is collected and must be text. -/
  | text
  /-- It is collected. -/
  | bytes
  /-- It becomes the content of a file. -/
  | file (destination : Path)
  deriving DecidableEq, Repr

/-- What was captured. -/
inductive Output where
  | inherited
  | text (text : String)
  | bytes (content : Bytes)
  | file (path : Path)
  deriving DecidableEq, Repr

namespace Output

/-- Captured text. -/
def text? : Output → Option String
  | text t => some t
  | _ => none

/-- Captured text or bytes, as bytes. -/
def bytes? : Output → Option Bytes
  | text t => some (Text.Utf8.encode t)
  | bytes b => some b
  | _ => none

end Output

/-- Why a command failed. -/
inductive ProcessError where
  | spawn (program : String) (source : IoError)
  | failed (command : String) (code : Option Int)
  | redirect (command : String) (path : Path) (source : IoError)
  | notText (command : String)
  deriving DecidableEq, Repr

namespace ProcessError

/-- An exit code in the notation of diagnostics. -/
def codeText : Option Int → String
  | some n => "Some(" ++ toString n ++ ")"
  | none => "None"

/-- The text of the error. -/
def message : ProcessError → String
  | spawn program e => "failed to spawn " ++ program ++ ": " ++ e.message
  | failed command code => "command failed with exit code " ++ codeText code ++ ": " ++ command
  | redirect command path e =>
      "failed to redirect output of \x60" ++ command ++ "\x60 to " ++ path.text ++ ": " ++ e.message
  | notText command => "command produced non-UTF-8 output: " ++ command

/-- The texts of the causes, the nearest first. -/
def causes : ProcessError → List String
  | spawn _ e | redirect _ _ e => [e.message]
  | failed .. | notText _ => []

end ProcessError

end Bootstrap
