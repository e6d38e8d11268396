import Bootstrap.Digest
import Bootstrap.Pipeline.Stage

/-!
# What stages report
-/

namespace Bootstrap

/-- A self-test that passed. -/
structure SelfTestReport where
  mode : SelfTestMode
  /-- The names of the cases. -/
  passed : List String
  deriving DecidableEq, Repr

/-- An artifact with the digest it had when it was looked at. -/
structure ArtifactDigest where
  /-- The file as seen from the root. -/
  path : Path
  digest : ContentDigest
  deriving DecidableEq, Repr

/-- A verified fixpoint. -/
structure FixpointReport where
  /-- Compiled by the native toolchain. -/
  first : ArtifactDigest
  /-- Compiled by the first stage. -/
  second : ArtifactDigest
  /-- Compiled by the second stage. -/
  third : ArtifactDigest
  /-- Whether native and self-hosted compilation gave the same bytes, which they need not. -/
  firstMatchesSecond : Bool
  /-- Where the bytes of the third stage are now. -/
  promoted : Path
  deriving DecidableEq, Repr

/-- A complete bootstrap. -/
structure BootstrapReport where
  toolchain : Path
  prelude : Path
  selfTests : List SelfTestReport
  fixpoint : FixpointReport
  auxiliaries : List Path
  deriving DecidableEq, Repr

end Bootstrap
