import Bootstrap.Diff
import Bootstrap.Pipeline.Report
import Bootstrap.Pipeline.Task

/-!
# The self-test of the macro expander

A known program is expanded by the macro expander, interpreted, and its output is
compared byte for byte with a fixed text.  Output that is no text is a mismatch
like any other; the report shows it as well as it can.
-/

namespace Bootstrap

/-- One run of the self-test program and the output it must give. -/
structure SelfTestCase where
  name : String
  arguments : List String
  expected : String
  deriving DecidableEq, Repr

namespace SelfTest

/-- The cases, in order. -/
def cases : List SelfTestCase :=
  [⟨"no arguments", [], "Got arguments: ()\nHello, world!\nhullo\nGoodbye, world!\n"⟩,
    ⟨"two arguments", ["foo", "bar"],
      "Got arguments: (\"foo\" \"bar\")\nHello, world!\nhullo\nGoodbye, world!\n(\"foo\" \"bar\")\n"⟩]

/-- The part of the program that speaks here. -/
def logSource : String := "oftb_bootstrap_lib::pipeline::selftest"

/-- Compares an output with what a case expects of a program. -/
def verdict (case : SelfTestCase) (program : String) (actual : Bytes) :
    Except BootstrapError Unit :=
  if actual = Text.Utf8.encode case.expected then .ok ()
  else
    let shown := Text.Utf8.decodeLossy actual
    .error (.selfTestMismatch case.name program case.expected shown
      (Diff.render case.expected shown))

variable {σ : Type}

/-- The expander's artifact of the test program. -/
def program (c : Config) : Artifact := c.store.artifact c.selfTest

/-- Expands and compiles the test program into its canonical artifact. -/
def expand (c : Config) (runner : Runner σ) (mode : SelfTestMode) : StageTask σ Unit := do
  let toolchain := c.selectedToolchain
  let arguments := c.expansionArguments c.selfTest
  let capture := Capture.file (program c).path
  match mode with
  | .source =>
      let _ ← StageTask.command c runner (toolchain.run c.expander arguments) capture
  | .prebuilt =>
      let expander := c.store.artifact c.expander
      StageTask.artifacts expander.require
      let _ ← StageTask.command c runner (toolchain.interpret expander arguments) capture
  StageTask.artifacts (program c).require

/-- Expands the test program, runs it on one case and compares. -/
def runCase (c : Config) (runner : Runner σ) (mode : SelfTestMode) (case : SelfTestCase) :
    StageTask σ Unit := do
  expand c runner mode
  let output ← StageTask.command c runner
    (c.selectedToolchain.interpret (program c) case.arguments) .bytes
  match verdict case c.selfTest.binary (output.bytes?.getD []) with
  | .error e => Task.fail e
  | .ok () =>
      Task.log .debug logSource "self-test passed" [("case", Text.Quoted.quote case.name)]

/-- Runs cases in order, up to the first that fails. -/
def runCases (c : Config) (runner : Runner σ) (mode : SelfTestMode) :
    List SelfTestCase → StageTask σ (List String)
  | [] => pure []
  | case :: rest => do
      runCase c runner mode case
      return case.name :: (← runCases c runner mode rest)

/-- The self-test stage. -/
def run (c : Config) (runner : Runner σ) (mode : SelfTestMode) : StageTask σ SelfTestReport := do
  StageTask.announce logSource mode.stage []
  return ⟨mode, ← runCases c runner mode cases⟩

end SelfTest

end Bootstrap
