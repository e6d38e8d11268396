import Bootstrap.Pipeline.Error
import Bootstrap.Pipeline.Stage
import Bootstrap.Toolchain

/-!
# Steps of a stage

A stage is made of few kinds of steps: it announces itself, issues a command of
the toolchain, or does something with an artifact.
-/

namespace Bootstrap

/-- A step of a bootstrap. -/
abbrev StageTask (σ α : Type) : Type := Task σ BootstrapError α

namespace StageTask

variable {σ α : Type}

/-- The part of the program that speaks here. -/
def logSource : String := "oftb_bootstrap_lib::pipeline"

/-- The part of the program that speaks of artifacts. -/
def artifactLogSource : String := "oftb_bootstrap_lib::artifact"

/-- Announces a stage. -/
def announce (source : String) (stage : Stage) (more : List (String × String)) :
    StageTask σ Unit :=
  Task.log .info source "stage started" (("stage", stage.title) :: more)

/-- Issues a command of the toolchain that a configuration selects. -/
def command (c : Config) (runner : Runner σ) (command : Command) (capture : Capture) :
    StageTask σ Output :=
  ((Toolchain.ofConfig c).perform runner command capture).mapError .process

/-- Does something with artifacts. -/
def artifacts (op : FileOp ArtifactError α) : StageTask σ α := Task.onFiles (op.mapError .artifact)

/-- Puts a copy of an artifact in the place of another. -/
def promote (a target : Artifact) : StageTask σ Unit := do
  artifacts (a.promote target)
  Task.log .debug artifactLogSource "promoted artifact"
    [("from", a.relative.text), ("to", target.relative.text)]

end StageTask

namespace Config

/-- The toolchain of the configuration. -/
def selectedToolchain (c : Config) : Toolchain := Toolchain.ofConfig c

/-- The arguments with which the expander compiles an entry point. -/
def expansionArguments (c : Config) (key : ArtifactKey) : List String :=
  [c.standardLibrary.text, key.package.text, key.binary]

end Config

end Bootstrap
