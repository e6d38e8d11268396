import Bootstrap.FileSystem.Staging
import Bootstrap.Session
import Bootstrap.Signal

/-!
# Running programs on a host

A host says what becomes of a program that is started: it cannot be started, or
it ends with a status after writing to its streams and changing files.  The
runner on a host turns that into a result: a status other than zero is an error,
collected text must be text, and output that goes to a file is written to a staging
file beside it, which is put in place only if the program succeeded.
-/

namespace Bootstrap

/-- How a program ended. -/
inductive ExitStatus where
  | exited (code : Nat)
  | signaled (signal : Nat)
  deriving DecidableEq, Repr

namespace ExitStatus

/-- Whether the program succeeded. -/
def isSuccess (s : ExitStatus) : Bool := s == exited 0

/-- The exit code; a program that was killed has none. -/
def code? : ExitStatus → Option Int
  | exited n => some n
  | signaled _ => none

/-- The text of a status. -/
def text : ExitStatus → String
  | exited n => "exit status: " ++ toString n
  | signaled n => "signal: " ++ toString n ++
      (match Signal.name? n with
        | some name => " (SIG" ++ name ++ ")"
        | none => "")

end ExitStatus

/-- Where the standard output of a program goes. -/
inductive Sink where
  | collected
  /-- It is written to the file with this number. -/
  | file (number : Nat)
  deriving DecidableEq, Repr

/-- What a started program did. -/
structure ChildRun where
  status : ExitStatus
  /-- The output that was collected. -/
  output : Bytes
  errorOutput : Bytes
  /-- The file system it left. -/
  files : FileSystem
  deriving Repr

/-- What becomes of a program that is started, with its output going to a sink, from a directory on
some files. -/
abbrev Host : Type := Invocation → Sink → Location → FileSystem → Except IoError ChildRun

namespace Host

/-- The part of the program that speaks here. -/
def logSource : String := "oftb_bootstrap_lib::process"

/-- A debug record. -/
def debug (message : String) (fields : List (String × String)) : Note :=
  .log ⟨.debug, logSource, message, fields⟩

/-- An optional path in the notation of diagnostics. -/
def optionalPath : Option Path → String
  | some p => "Some(" ++ Text.Quoted.quote p.text ++ ")"
  | none => "None"

/-- The note that a program is about to start. -/
def startNote (i : Invocation) : Note :=
  debug "spawning process" [("cmd", i.commandLine), ("cwd", optionalPath i.directory)]

/-- Whether both streams of a program are collected: then nobody sees its error stream. -/
def isCollected : Capture → Bool
  | .text | .bytes => true
  | .inherit | .file _ => false

/-- What a watcher sees of a program itself. -/
def childNotes (capture : Capture) (r : ChildRun) : List Note :=
  (if r.errorOutput.isEmpty || isCollected capture then [] else [Note.errorBytes r.errorOutput]) ++
    (if capture = .inherit ∧ r.output ≠ [] then [Note.outputBytes r.output] else [])

/-- The notes on a program that ended badly. -/
def failureNotes (i : Invocation) (s : ExitStatus) : List Note :=
  [debug "command failed" [("cmd", i.commandLine), ("status", s.text)]]

/-- The program could not be started. -/
def spawnError (i : Invocation) (e : IoError) : ProcessError := .spawn i.program.text e

/-- The program ended with a bad status. -/
def statusError (i : Invocation) (s : ExitStatus) : ProcessError :=
  .failed i.commandLine s.code?

/-- Turns collected output into a result. -/
def collected (i : Invocation) (capture : Capture) (output : Bytes) :
    Except ProcessError Output × List Note :=
  match capture with
  | .text =>
      match Text.Utf8.decode? output with
      | some t =>
          (.ok (.text t), if t.isEmpty then [] else [debug "command output" [("stdout", t)]])
      | none => (.error (.notText i.commandLine), [])
  | .bytes =>
      (.ok (.bytes output), [debug "command output" [("bytes", toString output.length)]])
  | _ => (.ok .inherited, [])

/-- Runs a program whose output is inherited or collected. -/
def runCollected (host : Host) (i : Invocation) (capture : Capture) (cwd : Location)
    (fs : FileSystem) : Reply Unit :=
  match host i .collected cwd fs with
  | .error e => ⟨.error (spawnError i e), fs, (), [startNote i]⟩
  | .ok r =>
      let notes := startNote i :: childNotes capture r
      if r.status.isSuccess then
        let (result, more) := collected i capture r.output
        ⟨result, r.files, (), notes ++ more⟩
      else ⟨.error (statusError i r.status), r.files, (), notes ++ failureNotes i r.status⟩

/-- Runs a program whose output goes to a file: it writes to the staging file itself. -/
def runRedirected (host : Host) (i : Invocation) (destination : Path) (cwd : Location)
    (fs : FileSystem) : Reply Unit :=
  let redirectError := ProcessError.redirect i.commandLine destination
  let staging := (Staged.create destination).run cwd fs
  match staging.outcome with
  | .error e => ⟨.error (redirectError e), staging.files, (), [startNote i]⟩
  | .ok staged =>
      let dropped := fun files => (staged.drop.run cwd files).files
      match host i (.file staged.number) cwd staging.files with
      | .error e => ⟨.error (spawnError i e), dropped staging.files, (), [startNote i]⟩
      | .ok r =>
          let notes := startNote i :: childNotes (.file destination) r
          if r.status.isSuccess then
            let persisting := (staged.persist destination).run cwd r.files
            match persisting.outcome with
            | .error e => ⟨.error (redirectError e), dropped persisting.files, (), notes⟩
            | .ok () =>
                ⟨.ok (.file destination), persisting.files, (),
                  notes ++ [debug "redirected output" [("path", destination.text)]]⟩
          else
            ⟨.error (statusError i r.status), dropped r.files, (),
              notes ++ failureNotes i r.status⟩

/-- The runner on a host. -/
def runner (host : Host) : Runner Unit := fun i capture cwd fs _ =>
  match capture with
  | .file destination => runRedirected host i destination cwd fs
  | _ => runCollected host i capture cwd fs

end Host

end Bootstrap
