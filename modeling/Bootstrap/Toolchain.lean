import Bootstrap.Config
import Bootstrap.Session

/-!
# Commands of the toolchain

The toolchain has three operations on packages and is itself built by a build
tool.  Each command is a value that says what is announced and what is started:

    compile   --std <library> <package> <entry point>
    interpret <artifact> [arguments]
    run       --std <library> <package> <entry point> [arguments]

Nothing here looks at a result; a command that fails is an error of the task that
performs it.
-/

namespace Bootstrap

/-- A toolchain binary and how it is called. -/
structure Toolchain where
  executable : Path
  /-- The standard library package that compilations are given. -/
  standardLibrary : Path
  /-- The directory that the binary starts in. -/
  root : Path
  /-- Whether the binary is asked to be verbose. -/
  verbose : Bool
  /-- Whether command lines are shown before they run. -/
  echo : Bool
  deriving DecidableEq, Repr

/-- A command that is about to be issued. -/
structure Command where
  /-- What the log says of it. -/
  banner : String
  invocation : Invocation
  deriving DecidableEq, Repr

namespace Toolchain

/-- The toolchain of a configuration under another executable. -/
def withExecutable (c : Config) (executable : Path) : Toolchain where
  executable := executable
  standardLibrary := c.standardLibrary
  root := c.root
  verbose := c.toolchainVerbose
  echo := c.echo

/-- The toolchain of a configuration. -/
def ofConfig (c : Config) : Toolchain := withExecutable c c.toolchain.executable

/-- An invocation of the binary from the root. -/
def invocation (t : Toolchain) (arguments : List String) : Invocation where
  program := t.executable
  arguments := (if t.verbose then ["-v"] else []) ++ arguments
  directory := some t.root

/-- A program's name followed by its arguments. -/
def banner (verb target : String) (arguments : List String) : String :=
  " ".intercalate (verb :: target :: arguments)

/-- Compiles an entry point ahead of time. -/
def compile (t : Toolchain) (key : ArtifactKey) : Command where
  banner := banner "compile" key.binary []
  invocation := t.invocation
    ["compile", "--std", t.standardLibrary.text, key.package.text, key.binary]

/-- Executes a compiled artifact. -/
def interpret (t : Toolchain) (artifact : Artifact) (arguments : List String) : Command where
  banner := banner "interpret" artifact.stem arguments
  invocation := t.invocation (["interpret", artifact.relative.text] ++ arguments)

/-- Compiles an entry point and executes it at once. -/
def run (t : Toolchain) (key : ArtifactKey) (arguments : List String) : Command where
  banner := banner "run" key.binary arguments
  invocation := t.invocation
    (["run", "--std", t.standardLibrary.text, key.package.text, key.binary] ++ arguments)

/-- A command of the build tool. -/
def buildTool (banner : String) (directory : Path) (arguments : List String) : Command where
  banner := banner
  invocation := ⟨⟨"cargo"⟩, "-q" :: arguments, some directory⟩

/-- Checks the sources of the toolchain. -/
def check (directory : Path) : Command := buildTool "check oftb" directory ["check"]

/-- Builds the documentation of the toolchain. -/
def document (directory : Path) : Command := buildTool "document oftb" directory ["doc"]

/-- Builds the toolchain binary. -/
def buildRelease (directory : Path) : Command :=
  buildTool "compile oftb" directory ["build", "--release"]

/-- The part of the program that speaks here. -/
def logSource : String := "oftb_bootstrap_lib::toolchain"

variable {σ : Type}

/-- Announces a command and issues it. -/
def perform (t : Toolchain) (runner : Runner σ) (command : Command) (capture : Capture) :
    Task σ ProcessError Output := do
  Task.log .info logSource command.banner []
  Task.execute runner t.echo command.invocation capture

end Toolchain

end Bootstrap
