import Bootstrap.Artifact
import Bootstrap.Process.Invocation

/-!
# Why a bootstrap stops

Every error ends the run.  Errors of commands and of artifacts speak for
themselves.
-/

namespace Bootstrap

/-- Why a bootstrap stopped. -/
inductive BootstrapError where
  | process (error : ProcessError)
  | artifact (error : ArtifactError)
  /-- A program printed something else than it should. -/
  | selfTestMismatch (case program expected actual diff : String)
  /-- The second and the third self-compilation differ. -/
  | notIdempotent (binary : String) (second third : Path)
      (secondDigest thirdDigest : ContentDigest)
  | missingPrelude (path : Path)
  | toolchainMissing (path : Path)
  deriving DecidableEq, Repr

namespace BootstrapError

/-- The text of the error. -/
def message : BootstrapError → String
  | process e => e.message
  | artifact e => e.message
  | selfTestMismatch case program expected actual diff =>
      "self-test \x60" ++ case ++ "\x60 of " ++ program ++ " failed\n  expected: " ++
        Text.Quoted.quote expected ++ "\n  actual:   " ++ Text.Quoted.quote actual ++ "\n" ++ diff
  | notIdempotent binary second third secondDigest thirdDigest =>
      binary ++ " is not idempotent: " ++ second.text ++ " (" ++ secondDigest.text ++
        ") differs from " ++ third.text ++ " (" ++ thirdDigest.text ++ ")"
  | missingPrelude path =>
      "prelude " ++ path.text ++ " has not been generated; run the full bootstrap first"
  | toolchainMissing path => "toolchain binary not found at " ++ path.text

/-- The texts of the causes, the nearest first. -/
def causes : BootstrapError → List String
  | process e => e.causes
  | artifact e => e.causes
  | _ => []

end BootstrapError

end Bootstrap
