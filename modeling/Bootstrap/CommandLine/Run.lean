import Bootstrap.CommandLine.Reader
import Bootstrap.CommandLine.Summary
import Bootstrap.Data.Encoding
import Bootstrap.Pipeline.Run

/-!
# Running the program

A command line that makes sense is turned into a configuration and a command.
The root and a given toolchain binary are looked up from the current directory
before anything else happens, since all commands of the toolchain start in the
root.

    exit code 0    done, or a help text was asked for
    exit code 1    the run failed; one line says why
    exit code 2    the command line makes no sense
-/

namespace Bootstrap.CommandLine

/-- Why a run failed: what was being done, the error, and its causes. -/
structure Failure where
  texts : List String
  deriving DecidableEq, Repr

namespace Failure

/-- A failure while something was being done. -/
def during (deed error : String) (causes : List String) : Failure := ⟨deed :: error :: causes⟩

/-- All texts in one line. -/
def message (f : Failure) : String := ": ".intercalate f.texts

end Failure

/-- The part of the program that speaks here. -/
def logSource : String := "oftb_boot"

/-- The absolute path without links of what `p` leads to. -/
def resolved (p : Path) : FileOp IoError Path := FileOp.look fun fs cwd => fs.canonicalize cwd p

/-- The root that is asked for. -/
def rootOf (r : Request) (env : Environment) : FileOp Failure Path := do
  let asked ← match r.path? .root with
    | some p => pure p
    | none => (Config.defaultRoot env).mapError fun e =>
        .during "Failed to determine pipeline root" e.message []
  (resolved asked).mapError fun e =>
    .during ("Pipeline root not found: " ++ asked.text) e.message []

/-- The toolchain source that is asked for.  A given file is named by its absolute path if it is
there. -/
def toolchainOf (r : Request) (env : Environment) (root : Path) :
    FileOp Failure ToolchainSource := do
  match ToolchainSource.select env root (r.has .useSystemToolchain) (r.path? .toolchain)
      (r.has .noToolchainBuild) with
  | .prebuilt path => do
      match ← FileOp.attempt (resolved path) with
      | .ok absolute => return .prebuilt absolute
      | .error _ => return .prebuilt path
  | source => return source

/-- The configuration that is asked for. -/
def configOf (r : Request) (env : Environment) : FileOp Failure Config := do
  let root ← rootOf r env
  return { Config.standard root with
    toolchain := ← toolchainOf r env root
    auxiliaries := r.inner.values .aux
    echo := r.has .verbose
    toolchainVerbose := !r.has .quietToolchain }

/-- What every command works with. -/
structure Setting where
  console : Console
  format : OutputFormat
  config : Config
  environment : Environment

namespace Setting

variable {σ : Type}

/-- Shows a result: as data, or as a headline with items. -/
def conclude (s : Setting) (data : Data.Json) (headline : String) (items : List Item) :
    Task σ Failure Unit := do
  match s.format with
  | .json => Task.note (.outputLine data.print)
  | .text => do
      Task.note (.outputLine "")
      Task.note (s.console.status .success headline)
      for item in items do
        Task.note (item.onConsole s.console)

/-- Stages of a bootstrap that are run for some purpose. -/
def stages {α : Type} (purpose : String) (t : StageTask σ α) : Task σ Failure α :=
  t.mapError fun e => .during purpose e.message e.causes

/-- Writes an archive. -/
def pack (spec : ArchiveSpec) : Task σ Failure ArchiveReport :=
  spec.make.mapError fun e => .during "Packaging failed" e.message e.causes

/-- The whole bootstrap, and the archive if it is wanted. -/
def build (s : Setting) (runner : Runner σ) (wanted : Bool) (output : Option Path) :
    Task σ Failure (BootstrapReport × Option ArchiveReport) := do
  let (executable, report) ← stages "Bootstrap failed"
    (Pipeline.complete s.config s.environment runner)
  if wanted then
    return (report, some (← pack (ArchiveSpec.ofConfig s.config executable output)))
  else return (report, none)

/-- Shows what a bootstrap came to. -/
def present (s : Setting) (report : BootstrapReport) (packed : Option ArchiveReport) :
    Task σ Failure Unit :=
  s.conclude
    (.object [("pipeline", Data.ofBootstrap report),
      ("archive", Data.Json.optional Data.ofArchive packed)])
    "Bootstrap complete!" (Summary.bootstrap report packed)

/-- The whole bootstrap, and what it came to. -/
def bootstrap (s : Setting) (runner : Runner σ) (wanted : Bool) (output : Option Path) :
    Task σ Failure Unit := do
  let (report, packed) ← s.build runner wanted output
  s.present report packed

/-- The fixpoint stage alone. -/
def fixpoint (s : Setting) (runner : Runner σ) : Task σ Failure Unit := do
  let report ← stages "Fixpoint verification failed" do
    let _ ← Pipeline.prepare s.config s.environment runner
    Fixpoint.verify s.config runner
  s.conclude (Data.ofFixpoint report) "Macro expander is idempotent" (Summary.fixpoint report)
  if s.format = .text ∧ report.firstMatchesSecond = false then
    Task.note (s.console.status .warning
      "Native and self-hosted builds differ; only stages 2 and 3 must match")

/-- A self-test alone. -/
def selfTest (s : Setting) (runner : Runner σ) (mode : SelfTestMode) : Task σ Failure Unit := do
  let report ← stages "Self-test failed" do
    let _ ← Pipeline.prepare s.config s.environment runner
    SelfTest.run s.config runner mode
  s.conclude (Data.ofSelfTest report) "Self-test passed" [Summary.selfTest report]

/-- The archive alone.  Nothing is built for it. -/
def package (s : Setting) (output : Option Path) : Task σ Failure Unit := do
  let source := s.config.toolchain
  match source.locate (← Task.files) (← Task.here) s.environment with
  | none => Task.fail ⟨["Toolchain binary not found: " ++ source.executable.text]⟩
  | some executable => do
      let report ← pack (ArchiveSpec.ofConfig s.config executable output)
      s.conclude (Data.ofArchive report) "Archive written"
        [Summary.archive report, .stat "SHA-256" report.digest.short]

/-- Carries out the command of a request; without one, the whole bootstrap. -/
def perform (s : Setting) (runner : Runner σ) (r : Request) : Task σ Failure Unit :=
  match r.command.getD .bootstrap with
  | .bootstrap => s.bootstrap runner (!r.inner.has .noArchive) (r.path? .archive)
  | .fixpoint => s.fixpoint runner
  | .selfTest => s.selfTest runner (if r.inner.has .prebuilt then .prebuilt else .source)
  | .package => s.package (r.path? .archive)

end Setting

namespace Request

variable {σ : Type}

/-- Sets up what a request asks for and carries it out. -/
def perform (r : Request) (env : Environment) (runner : Runner σ) : Task σ Failure Unit := do
  let config ← Task.onFiles (configOf r env)
  Task.log .debug logSource "configuration loaded"
    [("root", config.root.text), ("toolchain", config.toolchain.describe)]
  Setting.perform ⟨Console.ofEnvironment env, r.format, config, env⟩ runner r

/-- What is shown of the log for a request. -/
def logView (r : Request) (env : Environment) : LogView :=
  .ofEnvironment env (if r.has .verbose then .debug else .info)

end Request

/-- A finished run of the program. -/
structure Finished (σ : Type) where
  exitCode : Nat
  log : LogView
  notes : List Note
  files : FileSystem
  memory : σ

namespace Finished

variable {σ : Type}

/-- What is on the error stream. -/
def errorStream (f : Finished σ) : Bytes := f.notes.flatMap (·.onErrorStream f.log)

/-- What is on the standard output, if the run took this time. -/
def outputStream (f : Finished σ) (elapsed : Report.Duration) : Bytes :=
  f.notes.flatMap (·.onOutputStream elapsed)

end Finished

/-- What is shown instead of a run, with styles if they are wanted. -/
def Interruption.notes (styled : Bool) : Interruption → List Note
  | .help topic => [.outputBytes (Text.Utf8.encode (topic.wording.shown styled))]
  | .version => [.outputLine (programName ++ " " ++ programVersion)]
  | .misuse error => error.lines.map fun line => .errorLine (line.shown styled)

/-- The exit code in place of that of a run. -/
def Interruption.exitCode : Interruption → Nat
  | .misuse _ => 2
  | _ => 0

/-- Runs the program on the words behind its name. -/
def run {σ : Type} (words : List String) (env : Environment) (runner : Runner σ) (memory : σ)
    (cwd : Location) (fs : FileSystem) : Finished σ :=
  match Request.read words with
  | .error stop => 
      ⟨stop.exitCode, .ofEnvironment env .info, stop.notes (wantsStyles env), fs, memory⟩
  | .ok request =>
      let (outcome, session) := (request.perform env runner).run cwd (Session.start fs memory)
      let (code, last) := match outcome with
        | .ok () => (0, [])
        | .error failure =>
            (1, [(Console.ofEnvironment env).status .error failure.message])
      ⟨code, request.logView env, session.notes ++ last, session.files, session.memory⟩

end Bootstrap.CommandLine
