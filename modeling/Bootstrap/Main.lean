import Bootstrap.Archive.Unpack
import Bootstrap.CommandLine.Run
import Bootstrap.Process.World

/-!
# The program

The program works in a world of its own: a system with the usual utilities, and
in it a working directory that is filled from an archive on the standard input.
Everything that happens there is computed; the streams and the exit code are what
leaves it.
-/

namespace Bootstrap.Program

/-- The variables that are handed on to the world. -/
def passedOn : List String :=
  ["PATH", Layout.rootVariable, Layout.toolchainVariable, "RUST_LOG", "NO_COLOR", "FORCE_COLOR",
    "CLICOLOR", "CLICOLOR_FORCE", "COLORTERM", "CI", "TERM", "LANG", "HOME"]

/-- The directory that the program runs in. -/
def workingDirectory : Location := ["work"]

/-- The world with the working directory as an archive fills it. -/
def filesWith (archive : Bytes) : FileSystem :=
  let fs := World.files.put workingDirectory (.directory FileSystem.commonMode)
  match Tar.readAny? archive with
  | some members =>
      ((FileOp.unpack members : FileOp IoError Unit).run workingDirectory fs).files
  | none => fs

/-- The environment of the process. -/
def environment : IO Environment := do
  let mut env : Environment := ⟨[]⟩
  for name in passedOn do
    if let some value ← IO.getEnv name then
      env := env.set name value
  return env

/-- Everything on a stream. -/
partial def readAll (s : IO.FS.Stream) (before : ByteArray) : IO ByteArray := do
  let chunk ← s.read 65536
  if chunk.isEmpty then return before
  else readAll s (before ++ chunk)

/-- What the working directory is filled from; nothing is read for a command line that starts no
run. -/
def archive (words : List String) : IO Bytes := do
  match CommandLine.Request.read words with
  | .ok _ => return (← readAll (← IO.getStdin) ByteArray.empty).toList
  | .error _ => return []

/-- Writes bytes to a stream. -/
def write (s : IO.FS.Stream) (content : Bytes) : IO Unit := do
  s.write (ByteArray.mk content.toArray)
  s.flush

end Bootstrap.Program

/-- Runs the program on the words of its command line. -/
def main (words : List String) : IO UInt32 := do
  let env ← Bootstrap.Program.environment
  let files := Bootstrap.Program.filesWith (← Bootstrap.Program.archive words)
  let start ← IO.monoNanosNow
  let f := Bootstrap.CommandLine.run words env
    (Bootstrap.Host.runner (Bootstrap.Host.inWorld env)) () Bootstrap.Program.workingDirectory files
  Bootstrap.Program.write (← IO.getStderr) f.errorStream
  let elapsed := Bootstrap.Report.Duration.ofParts 0 ((← IO.monoNanosNow) - start)
  Bootstrap.Program.write (← IO.getStdout) (f.outputStream elapsed)
  return UInt32.ofNat f.exitCode
