import Bootstrap.Machine.Descriptor
import Bootstrap.Machine.Program

/-!
# Starting programs

A process starts another by a copy of itself that becomes a program.  The copy has
descriptors, variables and a directory of its own, so whatever it does to them ends
with it; what all processes share stays as it leaves it.

How a utility does its work is not said here: that is in a launcher, which runs the
utility of a program in the present process and gives its status.
-/

namespace Bootstrap.Machine

/-- Runs the utility of a program in the present process. -/
abbrev Launcher := Program → Step Nat

namespace Process

/-- A copy of a process, which is a process of its own. -/
def copy (p : Process) : Process :=
  let id := p.common.lastProcess + 1
  { p with
    common := { p.common with lastProcess := id }
    id := id
    ancestors := p.id :: p.ancestors
    unwritten := []
    outputFault := none }

end Process

/-- How a process ended whose last step gave a status. -/
def endingOf : Except Ending Nat → Ending
  | .ok status => .exited (status % 256)
  | .error e => e

namespace Step

variable {α : Type}

/-- Takes the signals that are under way to the process itself. -/
def takeSignals : Step (List Nat) := do
  let p ← get
  let (own, others) := p.common.signals.partition fun s => s.1 == p.id
  modifyCommon fun c => { c with signals := others }
  return own.map (·.2)

/-- Lets the process be ended by the first signal that ends it. -/
def undergo (signals : List Nat) : Step Unit := do
  let ignored := (← get).ignored
  match signals.find? fun n => n = Signal.kill ∨ !(Signal.isHarmless n || ignored.contains n) with
  | some n => throw (.killed n)
  | none => pure ()

/-- Runs a step as a process of its own, and gives its end, whatever it is. -/
def observe (step : Step Nat) : Step Ending := do
  let (result, after) := Id.run (step.run.run (← get).copy)
  modify fun p => { p with common := after.common }
  return endingOf result

/-- Runs a step as a process of its own, and waits for its end.  Where the time of that process was
over, so is the time of this one. -/
def fork (step : Step Nat) : Step Ending := do
  match ← observe step with
  | .starved => throw .starved
  | e => return e

/-- Runs a step as a process of its own that has so many nanoseconds; none if it takes longer. -/
def forkWithin (nanoseconds : Nat) (step : Step Nat) : Step (Option Ending) := do
  let c := (← get).common
  let limit := c.files.now + nanoseconds
  let deadline := match c.deadline with
    | some d => min d limit
    | none => limit
  modifyCommon fun c => { c with deadline := some deadline }
  let ending ← observe step
  modifyCommon fun now => { now with deadline := c.deadline }
  match ending with
  | .starved => if deadline = limit then return none else throw .starved
  | e => return some e

/-- The search path where the environment has none. -/
def pathlessPath : Raw := raw "/bin:/usr/bin"

/-- The program with a name; the search path is the one of the environment. -/
def find (name : Raw) (words : List Raw) : Step (Except Errno Program) := do
  let path := (← setting? "PATH").getD pathlessPath
  look fun fs cwd => Program.findOrScript fs cwd path name words

/-- Turns the process into a program. -/
def become (launch : Launcher) (p : Program) : Step Nat := do
  modify fun process => { process with
    name := p.words.headD []
    unwritten := []
    outputFault := none }
  launch p

/-- Starts a program by its words and waits for its end. -/
def start (launch : Launcher) (words : List Raw) : Step (Except Errno Ending) := do
  match ← find (words.headD []) words with
  | .error e => return .error e
  | .ok program =>
      let ending ← fork (become launch program)
      undergo (← takeSignals)
      return .ok ending

/-- Complains that a file could not be dealt with. -/
def complainOf (name : Raw) (e : Errno) : Step Unit :=
  complain (name ++ raw ": " ++ raw e.strerror)

end Step

end Bootstrap.Machine
