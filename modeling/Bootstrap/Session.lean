import Bootstrap.FileSystem.Operation
import Bootstrap.Log
import Bootstrap.Process.Invocation

/-!
# Sessions

A session is everything that a run changes: the file system, the memory of the
runner that carries commands out, the commands carried out so far, and the notes
that a watcher sees.  A task is a step of a run.  What a task did before it
failed stays done, so the session is there after a failure as well.

Every command leaves a turn: what was asked, what came of it, and the files
before and after.  So a statement about the moment at which a command was issued
is a statement about a list.

A runner is any function from a command and the present file system to a result
and a new file system.  It may answer differently each time, out of its memory.
-/

namespace Bootstrap

/-- What a watcher of a run sees, in the order in which it happens. -/
inductive Note where
  | log (record : LogRecord)
  /-- A line on the error stream. -/
  | errorLine (text : String)
  /-- Bytes that a program wrote to its error stream. -/
  | errorBytes (content : Bytes)
  /-- Bytes that a program wrote to its inherited standard output. -/
  | outputBytes (content : Bytes)
  /-- A line on the standard output. -/
  | outputLine (text : String)
  /-- A line on the standard output that ends in the time since the run began. -/
  | elapsedLine (before : String)
  deriving DecidableEq, Repr

/-- A runner's answer to one command. -/
structure Reply (σ : Type) where
  result : Except ProcessError Output
  files : FileSystem
  memory : σ
  notes : List Note

/-- Something that carries commands out.  It is told the current directory. -/
abbrev Runner (σ : Type) : Type :=
  Invocation → Capture → Location → FileSystem → σ → Reply σ

/-- One command as it was issued. -/
abbrev Call : Type := Invocation × Capture

/-- One command as it was carried out. -/
structure Turn where
  call : Call
  /-- The files that the runner found. -/
  before : FileSystem
  result : Except ProcessError Output
  /-- The files that it left. -/
  after : FileSystem

/-- The state of a run. -/
structure Session (σ : Type) where
  files : FileSystem
  memory : σ
  /-- The commands carried out so far, in order. -/
  turns : List Turn
  /-- What was to be seen so far, in order. -/
  notes : List Note

namespace Session

/-- A session that begins on some files. -/
def start {σ : Type} (files : FileSystem) (memory : σ) : Session σ := ⟨files, memory, [], []⟩

/-- The commands issued so far, in order. -/
def calls {σ : Type} (s : Session σ) : List Call := s.turns.map Turn.call

end Session

/-- A step of a run from a current directory. -/
def Task (σ ε α : Type) : Type := Location → Session σ → Except ε α × Session σ

namespace Task

variable {σ ε ε' α β : Type}

/-- Runs the task. -/
def run (t : Task σ ε α) (cwd : Location) (s : Session σ) : Except ε α × Session σ := t cwd s

instance : Monad (Task σ ε) where
  pure a := fun _ s => (.ok a, s)
  bind t next := fun cwd s =>
    match t.run cwd s with
    | (.ok a, s) => (next a).run cwd s
    | (.error e, s) => (.error e, s)

/-- Stops with an error. -/
def fail (e : ε) : Task σ ε α := fun _ s => (.error e, s)

/-- The file system as it stands. -/
def files : Task σ ε FileSystem := fun _ s => (.ok s.files, s)

/-- The current directory. -/
def here : Task σ ε Location := fun cwd s => (.ok cwd, s)

/-- Adds a note. -/
def note (n : Note) : Task σ ε Unit := fun _ s => (.ok (), { s with notes := s.notes ++ [n] })

/-- Writes to the log. -/
def log (level : LogLevel) (source message : String) (fields : List (String × String)) :
    Task σ ε Unit :=
  note (.log ⟨level, source, message, fields⟩)

/-- Runs an operation on the files of the session. -/
def onFiles (op : FileOp ε α) : Task σ ε α := fun cwd s =>
  let r := op.run cwd s.files
  (r.outcome, { s with files := r.files })

/-- The same task with its errors seen in another light. -/
def mapError (f : ε → ε') (t : Task σ ε α) : Task σ ε' α := fun cwd s =>
  let (outcome, s) := t.run cwd s
  (outcome.mapError f, s)

/-- Runs `t`; if it fails, runs `undo`, whatever that comes to, and stops with the first error. -/
def orElseUndo (t : Task σ ε α) (undo : Task σ ε Unit) : Task σ ε α := fun cwd s =>
  match t.run cwd s with
  | (.ok a, s) => (.ok a, s)
  | (.error e, s) => (.error e, (undo.run cwd s).2)

/-- Issues a command: shows its command line if asked to, and has the runner carry it out. -/
def execute (runner : Runner σ) (echo : Bool) (i : Invocation) (capture : Capture) :
    Task σ ProcessError Output := fun cwd s =>
  let shown := if echo then [Note.errorLine ("+ " ++ i.commandLine)] else []
  let reply := runner i capture cwd s.files s.memory
  (reply.result,
    { files := reply.files
      memory := reply.memory
      turns := s.turns ++ [⟨(i, capture), s.files, reply.result, reply.files⟩]
      notes := s.notes ++ shown ++ reply.notes })

end Task

end Bootstrap
