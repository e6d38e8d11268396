import Bootstrap.Pipeline.Report
import Bootstrap.Pipeline.Task

/-!
# The fixpoint of self-compilation

The macro expander is compiled three times:

    native toolchain      --compile-->  first   (the canonical artifact)
    first, interpreted    --compile-->  second  (generation 2)
    second, interpreted   --compile-->  third   (generation 3)

The first two come from different compilers and may differ.  The second and the
third are the same program compiling the same source, so they are equal bytes if
the expander is deterministic.  Only then the third takes the place of the first,
and the generations are removed; otherwise they stay for inspection.
-/

namespace Bootstrap.Fixpoint

/-- The part of the program that speaks here. -/
def logSource : String := "oftb_bootstrap_lib::pipeline::fixpoint"

variable {σ : Type}

/-- The canonical artifact of the expander. -/
def first (c : Config) : Artifact := c.store.artifact c.expander

/-- The second generation of the expander. -/
def second (c : Config) : Artifact := c.store.generation c.expander 2

/-- The third generation of the expander. -/
def third (c : Config) : Artifact := c.store.generation c.expander 3

/-- Fails unless the prelude was generated. -/
def requirePrelude (c : Config) : StageTask σ Unit := do
  if (← Task.files).isFile (← Task.here) c.preludeFile then pure ()
  else Task.fail (.missingPrelude c.preludePath)

/-- Has the native toolchain compile the expander.  What an earlier run left does not count. -/
def nativeCompile (c : Config) (runner : Runner σ) : StageTask σ Unit := do
  StageTask.artifacts (first c).discard
  let _ ← StageTask.command c runner (c.selectedToolchain.compile c.expander) .inherit
  StageTask.artifacts (first c).require

/-- Has `compiler` compile the expander into `output`. -/
def selfCompile (c : Config) (runner : Runner σ) (compiler output : Artifact) :
    StageTask σ Unit := do
  let _ ← StageTask.command c runner
    (c.selectedToolchain.interpret compiler (c.expansionArguments c.expander)) (.file output.path)
  StageTask.artifacts output.require

/-- Says in the log that the first two compilations differ. -/
def warnDifferent (x y : ContentDigest) : StageTask σ Unit :=
  Task.log .warn logSource
    "stage 1 differs from stage 2; expected when native and self-hosted code generation differ"
    [("stage1", Text.Quoted.quote x.short), ("stage2", Text.Quoted.quote y.short)]

/-- Puts the third compilation in the place of the first and removes the generations. -/
def promote (c : Config) (digest : ContentDigest) : StageTask σ Unit := do
  StageTask.promote (third c) (first c)
  StageTask.artifacts (second c).remove
  StageTask.artifacts (third c).remove
  Task.log .info logSource "promoted stage 3"
    [("artifact", (first c).relative.text), ("digest", Text.Quoted.quote digest.short)]

/-- What is known after the three compilations. -/
structure Comparison where
  first : ContentDigest
  second : ContentDigest
  third : ContentDigest
  /-- Whether the second and the third are the same bytes. -/
  agree : Bool
  deriving DecidableEq, Repr

/-- Digests the three artifacts and compares the second with the third. -/
def compare (c : Config) : StageTask σ Comparison := do
  let x ← StageTask.artifacts (first c).digest
  let y ← StageTask.artifacts (second c).digest
  let z ← StageTask.artifacts (third c).digest
  return ⟨x, y, z, ← StageTask.artifacts ((second c).identical (third c))⟩

/-- Compiles the expander three times and compares. -/
def compileThrice (c : Config) (runner : Runner σ) : StageTask σ Comparison := do
  requirePrelude c
  nativeCompile c runner
  selfCompile c runner (first c) (second c)
  selfCompile c runner (second c) (third c)
  compare c

/-- Promotes the third compilation if it is the second one, and fails otherwise. -/
def conclude (c : Config) (r : Comparison) : StageTask σ FixpointReport := do
  if r.agree then
    if r.first ≠ r.second then warnDifferent r.first r.second
    promote c r.third
    return {
      first := ⟨(first c).relative, r.first⟩
      second := ⟨(second c).relative, r.second⟩
      third := ⟨(third c).relative, r.third⟩
      firstMatchesSecond := r.first = r.second
      promoted := (first c).relative }
  else
    Task.fail
      (.notIdempotent c.expander.binary (second c).relative (third c).relative r.second r.third)

/-- The fixpoint stage. -/
def verify (c : Config) (runner : Runner σ) : StageTask σ FixpointReport := do
  StageTask.announce logSource .fixpoint []
  conclude c (← compileThrice c runner)

end Bootstrap.Fixpoint
