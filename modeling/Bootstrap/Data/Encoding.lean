import Bootstrap.Archive.Package
import Bootstrap.Data.Json
import Bootstrap.Pipeline.Report

/-!
# Configurations and reports as data

What other programs read: the names of the members are part of the format.
-/

namespace Bootstrap.Data

open Json

/-- A path is its text. -/
def ofPath (p : Path) : Json := string p.text

/-- An entry point. -/
def ofKey (k : ArtifactKey) : Json :=
  object [("package", ofPath k.package), ("binary", string k.binary)]

/-- An artifact. -/
def ofArtifact (a : Artifact) : Json :=
  object [("key", ofKey a.key), ("variant", optional number a.variant),
    ("relative", ofPath a.relative), ("path", ofPath a.path)]

/-- A toolchain source. -/
def ofSource : ToolchainSource → Json
  | .build directory => object [("build", object [("crate_dir", ofPath directory)])]
  | .prebuilt path => object [("prebuilt", ofPath path)]
  | .system => string "system"

/-- A configuration. -/
def ofConfig (c : Config) : Json :=
  object [("root", ofPath c.root), ("toolchain", ofSource c.toolchain),
    ("std_package", ofPath c.standardLibrary), ("expander", ofKey c.expander),
    ("prelude_generator", string c.preludeGenerator), ("prelude_path", ofPath c.preludePath),
    ("self_test", ofKey c.selfTest), ("aux_binaries", list string c.auxiliaries),
    ("echo", bool c.echo), ("toolchain_verbose", bool c.toolchainVerbose)]

/-- A self-test. -/
def ofSelfTest (r : SelfTestReport) : Json :=
  object [("mode", string r.mode.identifier), ("passed", list string r.passed)]

/-- An artifact with its digest. -/
def ofArtifactDigest (a : ArtifactDigest) : Json :=
  object [("path", ofPath a.path), ("digest", string a.digest.text)]

/-- A fixpoint. -/
def ofFixpoint (r : FixpointReport) : Json :=
  object [("stage1", ofArtifactDigest r.first), ("stage2", ofArtifactDigest r.second),
    ("stage3", ofArtifactDigest r.third), ("stage1_matches_stage2", bool r.firstMatchesSecond),
    ("promoted", ofPath r.promoted)]

/-- A bootstrap. -/
def ofBootstrap (r : BootstrapReport) : Json :=
  object [("toolchain", ofPath r.toolchain), ("prelude", ofPath r.prelude),
    ("self_tests", list ofSelfTest r.selfTests), ("fixpoint", ofFixpoint r.fixpoint),
    ("auxiliaries", list ofPath r.auxiliaries)]

/-- An archive. -/
def ofArchive (r : ArchiveReport) : Json :=
  object [("path", ofPath r.path), ("entries", number r.entries), ("bytes", number r.bytes),
    ("digest", string r.digest.text)]

end Bootstrap.Data
