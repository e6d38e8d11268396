import Bootstrap.Config
import Bootstrap.Process.System
import Bootstrap.Utility.Table

/-!
# A system with its utilities

A small world to run programs in: a tree with the utilities in their usual places,
and a host that starts what it finds there.  A program is looked for from the
directory that it starts in, which is changed first, so an error there comes
before any error about the program.
-/

namespace Bootstrap

namespace World

open Machine

/-- The directory of the utilities. -/
def utilityDirectory : Location := ["usr", "bin"]

/-- The directories of a system, with their permission bits. -/
def directories : List (Location × Nat) :=
  [(["usr"], 0o755), (utilityDirectory, 0o755), (["usr", "sbin"], 0o755), (["usr", "lib"], 0o755),
    (["usr", "local"], 0o755), (["usr", "local", "bin"], 0o755), (["usr", "share"], 0o755),
    (["dev"], 0o755), (["etc"], 0o755), (["home"], 0o755), (["mnt"], 0o755), (["opt"], 0o755),
    (["proc"], 0o555), (["proc", "self"], 0o555), (Step.descriptorDirectory, 0o555),
    (["root"], 0o700), (["run"], 0o755), (["srv"], 0o755), (["sys"], 0o555), (["tmp"], 0o1777),
    (["var"], 0o755), (["var", "tmp"], 0o1777)]

/-- Everything else but the utilities. -/
def fixtures : List (Location × Entry) :=
  [(["bin"], .link "usr/bin"), (["sbin"], .link "usr/sbin"), (["lib"], .link "usr/lib"),
    (["dev", "null"], .device .null), (["dev", "zero"], .device .zero),
    (["dev", "full"], .device .full), (["dev", "random"], .device .random),
    (["dev", "urandom"], .device .random), (["dev", "tty"], .device .terminal),
    (["dev", "fd"], .link "/proc/self/fd"), (["dev", "stdin"], .link "/proc/self/fd/0"),
    (["dev", "stdout"], .link "/proc/self/fd/1"), (["dev", "stderr"], .link "/proc/self/fd/2"),
    (["etc", "passwd"], .file (Text.Utf8.encode "root:x:0:0:root:/root:/bin/bash\n") 0o644),
    (["etc", "hostname"], .file (Text.Utf8.encode "localhost\n") 0o644)]

/-- The utilities. -/
def utilities : List (Location × Entry) :=
  Utility.names.map fun name =>
    (utilityDirectory ++ [name], .file (Executable.content name) 0o755)

/-- The files with an entry more, which has the number of its place in the list. -/
def addEntry (fs : FileSystem) : (number : Nat) → Location × Entry → FileSystem
  | number, (place, .file content mode) =>
      { fs with
        nodes := (place, .file number) :: fs.nodes
        files := (number, ⟨content, mode, 0⟩) :: fs.files }
  | _, (place, .directory mode) => { fs with nodes := (place, .directory mode 0) :: fs.nodes }
  | _, (place, .link target) => { fs with nodes := (place, .link target) :: fs.nodes }
  | _, (place, .device d) => { fs with nodes := (place, .device d) :: fs.nodes }
  | _, (place, .pipe mode) => { fs with nodes := (place, .pipe mode) :: fs.nodes }

/-- When the system began, in nanoseconds. -/
def firstInstant : Int := 1700000000000000000

/-- The tree of a system on which nothing was done yet. -/
def files : FileSystem :=
  let entries := directories.map (fun (place, mode) => (place, Entry.directory mode)) ++
    fixtures ++ utilities
  let built := entries.foldl (fun (fs, n) e => (addEntry fs n e, n + 1))
    (({ FileSystem.empty with now := firstInstant }, 1) : FileSystem × Nat)
  built.1

/-- The search path where the environment gives none. -/
def fallbackPath : String := "/bin:/usr/bin"

/-- How deep programs may start each other. -/
def depth : Nat := 300

/-- The numbers of the process that starts programs and of the first one that is started. -/
def hostProcess : Nat := 4241

/-- A process that is started: nothing to read, a sink to write to, and a stream for errors. -/
def newProcess (env : Environment) (sink : Sink) (cwd : Location) (fs : FileSystem) : Process where
  common :=
    { files := fs
      streams := #[.device .null,
        (match sink with
          | .collected => .collector [] Step.captureRoom
          | .file number => .file number 0 false false true),
        .collector [] Step.captureRoom]
      signals := []
      lastProcess := hostProcess + 1
      deadline := none
      pipes := []
      waits := false }
  cwd := cwd
  channels := [(0, 0), (1, 1), (2, 2)]
  environment := env.bindings.map fun (name, value) => (Raw.ofString name, Raw.ofString value)
  mask := FileSystem.usualMask
  id := hostProcess + 1
  ancestors := [hostProcess]
  name := []
  ignored := []
  limits := []
  unwritten := []
  outputFault := none

/-- What was collected in a stream. -/
def collectedIn (common : Common) (index : Nat) : Bytes :=
  match common.streams[index]? with
  | some (.collector pieces _) => Raw.toBytes pieces.reverse.flatten
  | _ => []

/-- Runs a program to its end. -/
def runProgram (env : Environment) (sink : Sink) (cwd : Location) (fs : FileSystem)
    (program : Machine.Program) : ChildRun :=
  let start := newProcess env sink cwd fs
  let (result, after) :=
    Id.run ((Step.become (Utility.launch depth) program).run.run start)
  let status := match endingOf result with
    | .exited n => ExitStatus.exited n
    | .killed n => .signaled n
    | .starved => .signaled 24
  ⟨status, collectedIn after.common 1, collectedIn after.common 2, after.common.files⟩

/-- Where a program starts. -/
def startDirectory (fs : FileSystem) (cwd : Location) : Option Path → Except Errno Location
  | none => .ok cwd
  | some p => do
      let place ← fs.locate cwd p
      match fs.entryAt? place with
      | some entry =>
          if !entry.isDirectory then throw .notDirectory
          else if !entry.allows 1 then throw .accessDenied
          else return place
      | none => throw .noEntry

end World

/-- The host that starts what it finds on the files, with the variables of an environment. -/
def Host.inWorld (env : Environment) : Host := fun i sink cwd fs =>
  if i.hasNull then .error (.custom "InvalidInput" "nul byte found in provided data")
  else
    let words := i.words.map Raw.ofString
    let searchPath := (env.get? "PATH").getD World.fallbackPath
    let found := do
      let here ← World.startDirectory fs cwd i.directory
      let program ← Machine.Program.find fs here (Raw.ofString searchPath)
        (Raw.ofString i.program.text) words
      return (here, program)
    match found with
    | .error e => .error (.os e)
    | .ok (here, program) => .ok (World.runProgram env sink here fs program)

end Bootstrap
