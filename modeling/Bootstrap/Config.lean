import Bootstrap.Artifact

/-!
# Configuration of a run

A run works on one source tree with one toolchain binary.  `Config.standard`
names the usual layout; every field may be replaced.  The toolchain comes from a
fresh build, from a given file or from the search path, and `locate` finds the
file without running anything.
-/

namespace Bootstrap

/-- The variables a program is started with. -/
structure Environment where
  bindings : List (String × String)
  deriving Repr

namespace Environment

/-- The value of a variable. -/
def get? (e : Environment) (name : String) : Option String := e.bindings.lookup name

/-- The value of a variable that is set to something. -/
def filled? (e : Environment) (name : String) : Option String :=
  (e.get? name).filter (!·.isEmpty)

/-- Sets a variable. -/
def set (e : Environment) (name value : String) : Environment :=
  ⟨(name, value) :: e.bindings.filter (·.1 ≠ name)⟩

/-- Removes a variable. -/
def unset (e : Environment) (name : String) : Environment :=
  ⟨e.bindings.filter (·.1 ≠ name)⟩

/-- The directories of a search path.  An empty stretch is a directory too. -/
def directoriesOf (searchPath : String) : List Path :=
  (searchPath.toList.splitOn ':').map Path.ofChars

end Environment

namespace Layout

/-- The name of the toolchain executable. -/
def toolchainName : String := "oftb"
/-- The standard library package. -/
def standardLibrary : String := "ministd"
/-- The package of the macro expander. -/
def expanderPackage : String := "macro-expander"
/-- The entry point of the macro expander. -/
def expanderBinary : String := "oftb-macro-expander"
/-- The entry point that prints the prelude. -/
def preludeGenerator : String := "make-prelude"
/-- The generated source file. -/
def preludePath : String := "ministd/src/prelude.oft"
/-- The package of the self-test program. -/
def selfTestPackage : String := "examples/structure"
/-- The self-test program. -/
def selfTestBinary : String := "structure"
/-- The distribution archive. -/
def archiveName : String := "oftb.tar.gz"
/-- The variable that names the root of the source tree. -/
def rootVariable : String := "OFTB_BOOTSTRAP_ROOT"
/-- The variable that names a ready toolchain binary. -/
def toolchainVariable : String := "OFTB_BOOTSTRAP_TOOLCHAIN"

/-- All fixed names, in the order in which they are listed to users. -/
def names : List String :=
  [toolchainName, artifactExtension, buildDirectory, standardLibrary, expanderPackage,
    expanderBinary, preludeGenerator, preludePath, selfTestPackage, selfTestBinary, archiveName,
    rootVariable, toolchainVariable]

end Layout

/-- Where the toolchain binary comes from. -/
inductive ToolchainSource where
  /-- It is built in this directory. -/
  | build (directory : Path)
  /-- It is this file. -/
  | prebuilt (path : Path)
  /-- It is found on the search path. -/
  | system
  deriving DecidableEq, Repr

namespace ToolchainSource

/-- The binary that a build in `directory` leaves. -/
def releaseExecutable (directory : Path) : Path :=
  ((directory.push "target").push "release").push Layout.toolchainName

/-- The program to start. -/
def executable : ToolchainSource → Path
  | build directory => releaseExecutable directory
  | prebuilt path => path
  | system => ⟨Layout.toolchainName⟩

/-- Whether the binary has to be built first. -/
def needsBuild : ToolchainSource → Bool
  | build _ => true
  | _ => false

/-- The toolchain binary named by the environment. -/
def fromEnvironment (env : Environment) : Option Path :=
  (env.filled? Layout.toolchainVariable).map Path.mk

/-- Chooses a source: the system toolchain first, then an explicit file, then one from the
environment, then an earlier build if building is to be skipped, then a fresh build. -/
def select (env : Environment) (root : Path) (useSystem : Bool) (explicit : Option Path)
    (skipBuild : Bool) : ToolchainSource :=
  if useSystem then system
  else
    match explicit.or (fromEnvironment env) with
    | some path => prebuilt path
    | none => if skipBuild then prebuilt (releaseExecutable root) else build root

/-- The first file of that name in the directories of the search path. -/
def findOnSearchPath (fs : FileSystem) (cwd : Location) (env : Environment) (name : String) :
    Option Path := do
  let searchPath ← env.get? "PATH"
  ((Environment.directoriesOf searchPath).map (·.push name)).find? (fs.isFile cwd)

/-- The binary as a file on disk. -/
def locate (fs : FileSystem) (cwd : Location) (env : Environment) : ToolchainSource → Option Path
  | system => findOnSearchPath fs cwd env Layout.toolchainName
  | source => if fs.isFile cwd source.executable then some source.executable else none

/-- The source in the notation of diagnostics. -/
def describe : ToolchainSource → String
  | build directory => "Build \x7b crate_dir: " ++ Text.Quoted.quote directory.text ++ " \x7d"
  | prebuilt path => "Prebuilt(" ++ Text.Quoted.quote path.text ++ ")"
  | system => "System"

end ToolchainSource

/-- What one run works on. -/
structure Config where
  /-- The directory that package paths are relative to, and in which the toolchain runs. -/
  root : Path
  toolchain : ToolchainSource
  /-- The standard library package. -/
  standardLibrary : Path
  /-- The macro expander, the program that compiles itself. -/
  expander : ArtifactKey
  /-- The entry point of the expander package that prints the prelude. -/
  preludeGenerator : String
  /-- The prelude, as seen from the root. -/
  preludePath : Path
  /-- The program that the self-test expands and runs. -/
  selfTest : ArtifactKey
  /-- Further entry points of the expander package, compiled at the end. -/
  auxiliaries : List String
  /-- Whether command lines are shown before they run. -/
  echo : Bool
  /-- Whether the toolchain is asked to be verbose. -/
  toolchainVerbose : Bool
  deriving DecidableEq, Repr

namespace Config

/-- The usual layout below `root`. -/
def standard (root : Path) : Config where
  root := root
  toolchain := .build root
  standardLibrary := ⟨Layout.standardLibrary⟩
  expander := ⟨⟨Layout.expanderPackage⟩, Layout.expanderBinary⟩
  preludeGenerator := Layout.preludeGenerator
  preludePath := ⟨Layout.preludePath⟩
  selfTest := ⟨⟨Layout.selfTestPackage⟩, Layout.selfTestBinary⟩
  auxiliaries := []
  echo := false
  toolchainVerbose := true

/-- The prelude file. -/
def preludeFile (c : Config) : Path := c.root.join c.preludePath

/-- The source trees that go into the archive. -/
def sourceTrees (c : Config) : List Path := [c.expander.package, c.standardLibrary]

/-- The artifacts of the run. -/
def store (c : Config) : ArtifactStore := ⟨c.root⟩

/-- The root that the environment asks for, else the current directory. -/
def defaultRoot (env : Environment) : FileOp IoError Path :=
  match env.filled? Layout.rootVariable with
  | some root => pure ⟨root⟩
  | none => FileOp.look FileSystem.currentDirectory

end Config

end Bootstrap
