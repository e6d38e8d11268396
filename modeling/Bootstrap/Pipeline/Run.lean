import Bootstrap.Pipeline.Fixpoint
import Bootstrap.Pipeline.SelfTest

/-!
# The whole bootstrap

The stages run one after the other and the first failure ends the run.  The
prelude comes first, since the expander compiles against the standard library;
the second self-test and the auxiliary compilations use the promoted expander.
-/

namespace Bootstrap.Pipeline

variable {σ : Type}

/-- Builds the toolchain binary if it has to be built, and finds it. -/
def prepare (c : Config) (env : Environment) (runner : Runner σ) : StageTask σ Path := do
  match c.toolchain with
  | .build directory =>
      StageTask.announce StageTask.logSource .nativeBuild []
      let _ ← StageTask.command c runner (Toolchain.check directory) .inherit
      let _ ← StageTask.command c runner (Toolchain.document directory) .inherit
      let _ ← StageTask.command c runner (Toolchain.buildRelease directory) .inherit
  | _ => pure ()
  match ToolchainSource.locate (← Task.files) (← Task.here) env c.toolchain with
  | some path => return path
  | none => Task.fail (.toolchainMissing c.toolchain.executable)

/-- Generates the prelude of the standard library. -/
def generatePrelude (c : Config) (runner : Runner σ) : StageTask σ Path := do
  StageTask.announce StageTask.logSource .preludeGeneration []
  let generator : ArtifactKey := ⟨c.expander.package, c.preludeGenerator⟩
  let _ ← StageTask.command c runner
    (c.selectedToolchain.run generator [c.standardLibrary.text]) (.file c.preludeFile)
  return c.preludePath

/-- Compiles one auxiliary entry point with the promoted expander. -/
def compileAuxiliary (c : Config) (runner : Runner σ) (binary : String) : StageTask σ Path := do
  let key : ArtifactKey := ⟨c.expander.package, binary⟩
  let output := c.store.artifact key
  let _ ← StageTask.command c runner
    (c.selectedToolchain.interpret (c.store.artifact c.expander) (c.expansionArguments key))
    (.file output.path)
  StageTask.artifacts output.require
  return output.relative

/-- Compiles entry points in order. -/
def compileEach (c : Config) (runner : Runner σ) : List String → StageTask σ (List Path)
  | [] => pure []
  | binary :: rest => do
      let path ← compileAuxiliary c runner binary
      return path :: (← compileEach c runner rest)

/-- Compiles the auxiliary entry points. -/
def compileAuxiliaries (c : Config) (runner : Runner σ) : StageTask σ (List Path) := do
  StageTask.announce StageTask.logSource .auxiliary [("count", toString c.auxiliaries.length)]
  StageTask.artifacts (c.store.artifact c.expander).require
  compileEach c runner c.auxiliaries

/-- Every stage behind the native build. -/
def run (c : Config) (runner : Runner σ) : StageTask σ BootstrapReport := do
  let prelude ← generatePrelude c runner
  let fromSource ← SelfTest.run c runner .source
  let fixpoint ← Fixpoint.verify c runner
  let prebuilt ← SelfTest.run c runner .prebuilt
  let auxiliaries ← compileAuxiliaries c runner
  Task.log .info StageTask.logSource "bootstrap complete" []
  return {
    toolchain := c.toolchain.executable
    prelude := prelude
    selfTests := [fromSource, prebuilt]
    fixpoint := fixpoint
    auxiliaries := auxiliaries }

/-- Finds the toolchain binary and runs every stage. -/
def complete (c : Config) (env : Environment) (runner : Runner σ) :
    StageTask σ (Path × BootstrapReport) := do
  let executable ← prepare c env runner
  return (executable, ← run c runner)

end Bootstrap.Pipeline
