import Bootstrap.FileSystem.Furnish
import Bootstrap.FileSystem.Staging
import Bootstrap.Process.Invocation
import Bootstrap.Session

/-!
# Rehearsing a bootstrap

A rehearsal runs no programs.  Its runner answers commands out of a script, and
where the script is silent it plays a small toolchain whose artifacts are texts:
an artifact names the program that it holds, and an interpreted artifact acts as
that program.

    artifact   <origin> <package> <program>
    make-prelude        prints a fixed prelude
    structure           greets and lists its arguments
    any other program   with three arguments prints the artifact of the third
-/

namespace Bootstrap.Rehearsal

/-- A failure that a script asks for. -/
inductive Failure where
  | exit (code : Option Int)
  | spawn (errno : Errno)
  | notText
  deriving DecidableEq, Repr

/-- What a script has happen at a command. -/
structure Effect where
  failure : Option Failure
  /-- What is removed, whether it is there or not. -/
  removed : List Path
  directories : List Path
  written : List (Path × Bytes)
  /-- The output, in place of that of the toolchain. -/
  output : Option Bytes
  /-- Whether the number of the command is added to the output. -/
  stamped : Bool
  /-- Whether the answer is that the output was inherited. -/
  inherited : Bool
  /-- Whether output that should go to a file gets lost. -/
  lost : Bool
  deriving Repr

/-- Nothing out of the ordinary. -/
def Effect.none : Effect := ⟨.none, [], [], [], .none, false, false, false⟩

/-- A line of a script: conditions on a command, and what happens then. -/
structure Rule where
  /-- The number of the command. -/
  call : Option Nat
  subcommand : Option String
  /-- A text that one of the later arguments contains. -/
  argument : Option String
  effect : Effect
  deriving Repr

/-- A rehearsal. -/
structure Script where
  rules : List Rule
  /-- The directory in which the toolchain keeps its artifacts. -/
  base : Path
  /-- Whether commands are only taken down: no output, and no file is written for one. -/
  silent : Bool
  deriving Repr

/-- The arguments of a command behind a leading option. -/
def toolArguments : List String → List String
  | "-v" :: rest | "-q" :: rest => rest
  | arguments => arguments

/-- Whether `part` occurs in `text`. -/
def occursIn (part : List Char) : List Char → Bool
  | [] => part.isEmpty
  | c :: rest => part.isPrefixOf (c :: rest) || occursIn part rest

/-- Whether a rule applies to the `number`-th command. -/
def Rule.applies (r : Rule) (number : Nat) (arguments : List String) : Bool :=
  (r.call.map (· == number)).getD true &&
    (r.subcommand.map (arguments.head? == some ·)).getD true &&
    (r.argument.map fun part =>
      arguments.tail.any fun a => occursIn part.toList a.toList).getD true

/-- What the script has happen at the `number`-th command. -/
def Script.effectAt (s : Script) (number : Nat) (arguments : List String) : Effect :=
  ((s.rules.find? (·.applies number arguments)).map Rule.effect).getD .none

/-- A list of texts as a program prints it. -/
def listText (arguments : List String) : String :=
  "(" ++ " ".intercalate (arguments.map fun a => "\"" ++ a ++ "\"") ++ ")"

/-- The output of a program; nothing if it fails. -/
def programOutput (name : String) (arguments : List String) : Option String :=
  if name = "make-prelude" then some "(def-prelude)\n"
  else if name = "structure" then
    some ("Got arguments: " ++ listText arguments ++ "\nHello, world!\nhullo\nGoodbye, world!\n" ++
      if arguments.isEmpty then "" else listText arguments ++ "\n")
  else
    match arguments with
    | [_, package, program] => some ("expanded " ++ package ++ " " ++ program ++ "\n")
    | _ => none

/-- A text without the line ends at its end. -/
def withoutLineEnds (text : List Char) : List Char :=
  (text.reverse.dropWhile (· == '\n')).reverse

/-- The program that an artifact holds. -/
def heldProgram? (artifact : Bytes) : Option String := do
  let text ← Text.Utf8.decode? artifact
  let third ← (text.toList.splitOn ' ')[2]?
  return String.ofList (withoutLineEnds third)

/-- Writes a file and the directories it lies in. -/
def writeFile (p : Path) (content : String) : FileOp IoError Unit :=
  FileOp.furnish p (.file (Text.Utf8.encode content) none)

/-- What the toolchain prints for a command; nothing if it fails. -/
def reply (s : Script) (i : Invocation) : FileOp IoError (Option String) := do
  let arguments := toolArguments i.arguments
  if s.silent then return some ""
  else if i.program.text = "cargo" then
    if arguments.head? = some "build" then
      let directory := i.directory.getD ⟨""⟩
      writeFile (((directory.push "target").push "release").push "oftb") "native toolchain"
    return some ""
  else
    match arguments with
    | ["compile", "--std", _, package, program] =>
        let path := ((s.base.push package).push "build").push (program ++ ".ofta")
        writeFile path ("native " ++ package ++ " " ++ program ++ "\n")
        return some ""
    | "run" :: "--std" :: _ :: _ :: program :: rest => return programOutput program rest
    | "interpret" :: artifact :: rest =>
        match heldProgram? (← FileOp.read (s.base.push artifact)) with
        | some program => return programOutput program rest
        | none => return none
    | _ => return none

/-- Does what the script asks for on the files. -/
def disturb {ε : Type} (s : Script) (e : Effect) : FileOp ε Unit := do
  for p in e.removed do
    FileOp.ignore (FileOp.demolish (s.base.join p))
  for p in e.directories do
    FileOp.ignore (FileOp.makeDirectories (s.base.join p))
  for (p, content) in e.written do
    FileOp.ignore (FileOp.furnish (s.base.join p) (.file content none))

/-- Hands output on as the command asked for it. -/
def deliver (s : Script) (e : Effect) (i : Invocation) (capture : Capture) (output : Bytes) :
    FileOp ProcessError Output := do
  if e.inherited then return .inherited
  else
    match capture with
    | .inherit => return .inherited
    | .text =>
        match Text.Utf8.decode? output with
        | some t => return .text t
        | none => FileOp.fail (.notText i.commandLine)
    | .bytes => return .bytes output
    | .file destination => do
        if !(s.silent || e.lost) then
          (FileOp.writeAtomic destination output).mapError (.redirect i.commandLine destination)
        return .file destination

/-- Answers the `number`-th command. -/
def answer (s : Script) (number : Nat) (i : Invocation) (capture : Capture) :
    FileOp ProcessError Output := do
  let e := s.effectAt number (toolArguments i.arguments)
  match e.failure with
  | some (.exit code) => FileOp.fail (.failed i.commandLine code)
  | some (.spawn errno) => FileOp.fail (.spawn i.program.text (.os errno))
  | some .notText => FileOp.fail (.notText i.commandLine)
  | none => do
      disturb s e
      let output ← match e.output with
        | some output => pure (some output)
        | none => do
            match ← FileOp.attempt (reply s i) with
            | .ok text => pure (text.map Text.Utf8.encode)
            | .error _ => pure none
      match output with
      | none => FileOp.fail (.failed i.commandLine (some 1))
      | some output =>
          let stamp := if e.stamped then "#" ++ toString number ++ "\n" else ""
          deliver s e i capture (output ++ Text.Utf8.encode stamp)

/-- The runner of a rehearsal; it remembers how many commands there were. -/
def runner (s : Script) : Runner Nat := fun i capture cwd fs count =>
  let r := (answer s (count + 1) i capture).run cwd fs
  ⟨r.outcome, r.files, count + 1, []⟩

end Bootstrap.Rehearsal
