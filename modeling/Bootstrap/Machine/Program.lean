import Bootstrap.FileSystem.Resolve
import Bootstrap.Text.Raw

/-!
# Executable files

An executable file either holds a utility of the system or begins with a line that
names its interpreter.  Loading a file goes from interpreter to interpreter until
it comes to a utility.  The order of the tests is that of the system, so a file
that cannot be run says why.

Of a file the system looks at the first bytes only.  An interpreter whose name may
go on behind them is refused; an argument that does is cut.
-/

namespace Bootstrap.Machine

/-- What an executable file holds. -/
inductive Executable where
  /-- A utility of the system. -/
  | utility (name : String)
  /-- A text for an interpreter, which may be given one argument. -/
  | script (interpreter : Raw) (argument : Option Raw)
  deriving DecidableEq, Repr

namespace Executable

/-- The first bytes of a file that holds a utility; its name follows. -/
def mark : Bytes := [0x7F, 0x45, 0x4C, 0x46, 0x75, 0x74, 0x69, 0x6C]

/-- The content of a file that holds a utility. -/
def content (utility : String) : Bytes := mark ++ Text.Utf8.encode utility

/-- How many bytes of a file the system looks at. -/
def window : Nat := 256

/-- Whether a character is a blank of the first line. -/
def isBlank (c : Char) : Bool := c == ' ' || c == '\t'

/-- Whether a character ends the name of an interpreter. -/
def endsName (c : Char) : Bool := isBlank c || c.toNat == 0

/-- The line behind the mark of a script, if the name in it is whole.  What the file leaves of the
window is zeros. -/
def firstLine? (behind : Raw) : Option Raw :=
  let seen := Raw.padRight (window - 2) (behind.take (window - 2)) (Char.ofNat 0)
  if seen.contains '\n' then some (Raw.dropEndWhile isBlank (seen.takeWhile (· ≠ '\n')))
  else
    let name := seen.dropWhile isBlank
    if name.any endsName then some (Raw.dropEndWhile isBlank seen.dropLast) else none

/-- The interpreter that a script's first line names. -/
def interpreter? (behind : Raw) : Option Executable := do
  let line := (← firstLine? behind).dropWhile isBlank
  let interpreter := line.takeWhile fun c => !endsName c
  let rest := line.drop interpreter.length
  let cut := fun (r : Raw) => r.takeWhile fun c => c.toNat != 0
  if interpreter.isEmpty then none
  else
    match rest with
    | c :: _ =>
        if isBlank c then some (.script interpreter (some (cut (rest.dropWhile isBlank))))
        else some (.script interpreter none)
    | [] => some (.script interpreter none)

/-- What the content of a file holds. -/
def ofContent? (content : Bytes) : Option Executable :=
  if mark.isPrefixOf content then
    some (.utility (Text.Utf8.decodeLossy (content.drop mark.length)))
  else
    match content with
    | 0x23 :: 0x21 :: rest => interpreter? (Raw.ofBytes (rest.take (window - 2)))
    | _ => none

end Executable

/-- A utility with the words it is started with. -/
structure Program where
  utility : String
  /-- The words, the first of which names the program. -/
  words : List Raw
  deriving DecidableEq, Repr

namespace Program

/-- How many files one start may lead through. -/
def fileLimit : Nat := 6

/-- Loads the file `path` with some words; `budget` bounds the number of files on the way. -/
def loadWithin (fs : FileSystem) (cwd : Location) :
    (budget : Nat) → (path : Raw) → (words : List Raw) → Except Errno Program
  | 0, _, _ => .error .linkLoop
  | budget + 1, path, words =>
      match fs.stat cwd path.path with
      | .error e => .error e
      | .ok entry =>
          match entry with
          | .file content _ =>
              if entry.isExecutable then
                match Executable.ofContent? content with
                | some (.utility name) => .ok ⟨name, words⟩
                | some (.script interpreter argument) =>
                    loadWithin fs cwd budget interpreter
                      (interpreter :: argument.toList ++ path :: words.tail)
                | none => .error .execFormat
              else .error .accessDenied
          | _ => .error .accessDenied

/-- The longest word that a program can be given, with the zero at its end. -/
def wordLimit : Nat := 131072

/-- The most that all words and variables take together. -/
def totalLimit : Nat := 2097152

/-- Whether words are more than a program can be given. -/
def isTooLong (words : List Raw) : Bool :=
  words.any (fun w => wordLimit ≤ w.length) ||
    totalLimit ≤ words.foldl (fun sum w => sum + w.length + 9) 0

/-- Loads the file `path` with some words. -/
def load (fs : FileSystem) (cwd : Location) (path : Raw) (words : List Raw) :
    Except Errno Program :=
  if isTooLong words then .error .argumentsTooLong
  else loadWithin fs cwd fileLimit path words

/-- The program that stands in for one that cannot be loaded: a file in no known format is a text
for the shell. -/
def loadOrScript (fs : FileSystem) (cwd : Location) (path : Raw) (words : List Raw) :
    Except Errno Program :=
  match load fs cwd path words with
  | .error e =>
      if e = .execFormat then load fs cwd (raw "/bin/sh") (raw "/bin/sh" :: path :: words.tail)
      else .error e
  | .ok program => .ok program

/-- The path of a name in a directory of the search path; an empty one is the current one. -/
def candidate (directory name : Raw) : Raw :=
  if directory.isEmpty then name else directory ++ '/' :: name

/-- Whether the search goes on after a failure. -/
def goesOn (e : Errno) : Bool := e = .noEntry ∨ e = .notDirectory ∨ e = .accessDenied

/-- Loads the first file of that name in some directories that can be run.  A file that is there
but may not be run is remembered. -/
def searchIn (load : Raw → Except Errno Program) (name : Raw) :
    (denied : Bool) → (directories : List Raw) → Except Errno Program
  | denied, [] => .error (if denied then .accessDenied else .noEntry)
  | denied, directory :: rest =>
      match load (candidate directory name) with
      | .ok program => .ok program
      | .error e =>
          if goesOn e then searchIn load name (denied || e = .accessDenied) rest
          else .error e

/-- Loads a program by its name: a name with a slash is a path, any other is searched for. -/
def findBy (load : Raw → Except Errno Program) (searchPath name : Raw) : Except Errno Program :=
  if name.isEmpty then .error .noEntry
  else if name.contains '/' then load name
  else if FileSystem.nameLimit < name.length then .error .nameTooLong
  else searchIn load name false (searchPath.splitOn ':')

/-- Loads a program by its name. -/
def find (fs : FileSystem) (cwd : Location) (searchPath name : Raw) (words : List Raw) :
    Except Errno Program :=
  findBy (fun path => load fs cwd path words) searchPath name

/-- Loads a program by its name, where a file in no known format is a text for the shell. -/
def findOrScript (fs : FileSystem) (cwd : Location) (searchPath name : Raw) (words : List Raw) :
    Except Errno Program :=
  findBy (fun path => loadOrScript fs cwd path words) searchPath name

/-- The first regular file of that name in the search path that may be run, without a look into it.
Otherwise the latest obstacle. -/
def locate (fs : FileSystem) (cwd : Location) (name : Raw) :
    (obstacle : Errno) → (directories : List Raw) → Except Errno Raw
  | obstacle, [] => .error obstacle
  | obstacle, directory :: rest =>
      let path := candidate directory name
      match fs.stat cwd path.path with
      | .ok entry =>
          if entry.isExecutable then .ok path else locate fs cwd name .accessDenied rest
      | .error e =>
          let obstacle := if e = .noEntry ∨ e = .notDirectory then obstacle else e
          locate fs cwd name obstacle rest

end Program

end Bootstrap.Machine
