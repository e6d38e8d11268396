import Bootstrap.FileSystem.Calls
import Bootstrap.Text.Raw

/-!
# Processes

A process has a current directory, descriptors, an environment and a mask for new
files.  Files, open streams, signals under way and the numbers of processes are
common to all processes, so they outlive the process that changed them.

A descriptor leads to a stream, which several descriptors and several processes may
share: what one reads, no other reads again.

Processes do not run beside each other.  One that reads what another is still to write
is run as if that were all; then it is known that it has waited, and it can be run
again behind the other.
-/

namespace Bootstrap.Machine

/-- Something open. -/
inductive Stream where
  /-- A file that is read and written from an offset on. -/
  | file (number offset : Nat) (appends reads writes : Bool)
  /-- The end of a pipe that is written to: the pieces so far, the latest first, and how much room
  there is left. -/
  | collector (pieces : List Raw) (room : Nat)
  /-- The end of a pipe that is read from: what is left, and whether more may come. -/
  | source (rest : Raw) (goesOn : Bool)
  /-- A pipe with a name, by its place. -/
  | pipe (place : Location)
  | device (d : Device)
  | directory (place : Location)
  deriving Repr

/-- What all processes share. -/
structure Common where
  files : FileSystem
  streams : Array Stream
  /-- Signals under way: the process they go to and their number. -/
  signals : List (Nat × Nat)
  /-- The highest number of a process so far. -/
  lastProcess : Nat
  /-- When the time of the present process is over. -/
  deadline : Option Int
  /-- What is in the pipes with names to which something was written. -/
  pipes : List (Location × Raw)
  /-- Whether a process came to the end of a text that may go on. -/
  waits : Bool

/-- How much of something a process may use, and how far it may raise that itself. -/
structure Limit where
  soft : Option Nat
  hard : Option Nat
  deriving DecidableEq, Repr

/-- A process. -/
structure Process where
  common : Common
  cwd : Location
  /-- The streams that descriptors lead to. -/
  channels : List (Nat × Nat)
  environment : List (Raw × Raw)
  /-- The permission bits that new files do not get. -/
  mask : Nat
  id : Nat
  /-- The processes that it comes from, its parent first. -/
  ancestors : List Nat
  /-- The name under which the process complains. -/
  name : Raw
  /-- Signals that the process does not take notice of. -/
  ignored : List Nat
  /-- The limits that were set, by the letters that stand for them. -/
  limits : List (Char × Limit)
  /-- What is still to be written to the standard output, the latest first. -/
  unwritten : List Raw
  /-- Why the standard output could not be written, if it could not. -/
  outputFault : Option Errno

/-- How a process ends. -/
inductive Ending where
  | exited (status : Nat)
  | killed (signal : Nat)
  /-- Its time or its steps are used up. -/
  | starved
  deriving DecidableEq, Repr

/-- The status by which a shell knows an end. -/
def Ending.status : Ending → Nat
  | exited n => n
  | killed n => 128 + n
  | starved => 152

/-- A step of a process, which may be its last. -/
abbrev Step := ExceptT Ending (StateM Process)

namespace Step

variable {α : Type}

/-- Ends the process. -/
def exit (status : Nat) : Step α := throw (.exited status)

/-- The files as they stand. -/
def files : Step FileSystem := do return (← get).common.files

/-- Changes what all processes share. -/
def modifyCommon (change : Common → Common) : Step Unit :=
  modify fun p => { p with common := change p.common }

/-- A call that changes nothing. -/
def look (call : FileSystem → Location → Except Errno α) : Step (Except Errno α) := do
  let p ← get
  return call p.common.files p.cwd

/-- A call that changes files. -/
def change (call : FileSystem → Location → Except Errno FileSystem) :
    Step (Except Errno Unit) := do
  let p ← get
  match call p.common.files p.cwd with
  | .ok files =>
      modifyCommon fun c => { c with files := files }
      return .ok ()
  | .error e => return .error e

/-- The value of a variable of the environment. -/
def setting? (name : String) : Step (Option Raw) := do
  return (← get).environment.lookup (raw name)

end Step

end Bootstrap.Machine
