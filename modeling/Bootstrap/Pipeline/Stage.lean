import Bootstrap.Artifact

/-!
# The stages of a bootstrap

A bootstrap runs its stages in the order in which they are listed here.  The
macro expander is tested twice: driven from its source, and driven through the
artifact that the fixpoint stage promoted.
-/

namespace Bootstrap

/-- A stage of a bootstrap. -/
inductive Stage where
  | nativeBuild
  | preludeGeneration
  | selfTestSource
  | fixpoint
  | selfTestPrebuilt
  | auxiliary
  deriving DecidableEq, Repr

namespace Stage

/-- All stages in the order in which they run. -/
def all : List Stage :=
  [nativeBuild, preludeGeneration, selfTestSource, fixpoint, selfTestPrebuilt, auxiliary]

/-- The name of a stage in data. -/
def identifier : Stage → String
  | nativeBuild => "native-build"
  | preludeGeneration => "prelude-generation"
  | selfTestSource => "self-test-source"
  | fixpoint => "fixpoint"
  | selfTestPrebuilt => "self-test-prebuilt"
  | auxiliary => "auxiliary"

/-- The name of a stage for people. -/
def title : Stage → String
  | nativeBuild => "native build"
  | preludeGeneration => "prelude generation"
  | selfTestSource => "macro-expander self-test (source)"
  | fixpoint => "fixpoint verification"
  | selfTestPrebuilt => "macro-expander self-test (prebuilt)"
  | auxiliary => "auxiliary compilation"

end Stage

/-- How a self-test drives the macro expander. -/
inductive SelfTestMode where
  /-- It is run from its source. -/
  | source
  /-- Its canonical artifact is interpreted. -/
  | prebuilt
  deriving DecidableEq, Repr

namespace SelfTestMode

/-- Both modes, in the order in which a bootstrap uses them. -/
def all : List SelfTestMode := [source, prebuilt]

/-- The stage that tests in a mode. -/
def stage : SelfTestMode → Stage
  | source => .selfTestSource
  | prebuilt => .selfTestPrebuilt

/-- The name of a mode in data. -/
def identifier : SelfTestMode → String
  | source => "source"
  | prebuilt => "prebuilt"

end SelfTestMode

end Bootstrap
