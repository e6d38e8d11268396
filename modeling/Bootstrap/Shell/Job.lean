import Bootstrap.Shell.Redirection

/-!
# Subshells, programs and jobs

A subshell is a copy of the shell that is a process of its own.  A job is a subshell
that is not waited for.  It is put off: it runs when someone waits for it, when so
much time has passed that it must have ended, or at the end of the shell.  Until
then nothing has been seen of it, so nothing tells this from running beside the
shell.

A signal to the shell ends it, is ignored, or is caught, as its traps say.
-/

namespace Bootstrap.Shell

open Machine

namespace Act

/-- Takes notice of a signal to the shell. -/
def deliver (n : Nat) : Act Unit := do
  let s ← get
  if n = Signal.kill then throw (.ended (.killed n))
  else if s.process.ignored.contains n then pure ()
  else
    match s.traps.lookup n with
    | some [] => pure ()
    | some _ => set { s with caught := n :: s.caught.filter (· ≠ n) }
    | none => if Signal.isHarmless n then pure () else throw (.ended (.killed n))

/-- Takes notice of the signals that came. -/
def receive : Act Unit := do
  for n in ← machine Step.takeSignals do
    deliver n

/-- Says that a process that was waited for was ended by a signal. -/
def announce : Ending → Act Unit
  | .killed n => do
      if n ≠ 2 ∧ n ≠ Signal.brokenPipe then
        machine (Step.errorLine (raw (Signal.description n)))
  | _ => pure ()

/-- The state in which a subshell begins. -/
def subshellOf (s : Shell) : Shell :=
  { s with
    process := s.process.copy
    traps := s.traps.filter fun t => t.2.isEmpty
    caught := []
    jobs := [] }

/-- Runs a subshell and gives its end, whatever it is. -/
def subshell (body : Act Ending) : Act Ending := do
  let s ← get
  let (result, after) := Id.run (body.run.run (subshellOf s))
  modify fun s => { s with process := { s.process with common := after.process.common } }
  match result with
  | .ok e | .error (.ended e) => return e
  | .error _ => return .exited (after.status % 256)

/-- Takes notice of the jobs that have ended. -/
def notice : Act Unit :=
  modify fun s => { s with
    jobs := s.jobs.map fun j => { j with noticed := j.noticed || j.ending.isSome } }

/-- Runs a program in place of the shell, with the variables that are handed on. -/
def become {α : Type} (launch : Launcher) (p : Program) : Act α := do
  modify fun s => { s with process := { s.process with environment := s.environment } }
  let status ← machine (Step.become launch p)
  throw (.ended (.exited (status % 256)))

/-- The job with a number. -/
def jobAt (number : Nat) : Act (Option Job) := do
  return (← get).jobs.find? fun j => j.number == number

/-- Changes a job. -/
def setJob (job : Job) : Act Unit :=
  modify fun s => { s with
    jobs := s.jobs.map fun j => if j.number = job.number then job else j }

/-- Runs a job that was put off, from its beginning up to a deadline if there is one.  With `accepts`
one may look at the end first. -/
def runJob (job : Job) (deadline : Option Int) (accepts : Ending → Common → Bool) : Act Unit := do
  match job.work with
  | none => pure ()
  | some work =>
      let s ← get
      let common := s.process.common
      let start := min job.start common.files.now
      let (ending, after) := work { common with
        files := { common.files with now := start }
        deadline := deadline
        waits := false }
      if accepts ending after then
        let after := { after with
          deadline := common.deadline
          files := { after.files with now := max after.files.now common.files.now }
          waits := common.waits }
        set { s with process := { s.process with common := after } }
        setJob { job with work := none, ending := some ending }

/-- Runs the jobs that must have ended by now. -/
def runDue : Act Unit := do
  let now := (← get).process.common.files.now
  for job in (← get).jobs do
    if job.start < now then runJob job none fun _ after => after.files.now ≤ now

/-- Runs the first of some jobs that does not wait for another, and says whether there was one. -/
def runReady : List Job → Act Bool
  | [] => return false
  | job :: rest => do
      runJob job none fun _ after => !after.waits
      match ← jobAt job.number with
      | some j => if job.work.isSome && j.work.isNone then return true else runReady rest
      | none => runReady rest

/-- Runs jobs that do not wait for others; `count` bounds their number. -/
def runAllReady : (count : Nat) → Act Unit
  | 0 => pure ()
  | count + 1 => do
      if ← runReady (← get).jobs then runAllReady count

/-- Runs a job to its end, and first the jobs that it waits for. -/
def finish (job : Job) : Act Unit := do
  runJob job none fun _ after => !after.waits
  match ← jobAt job.number with
  | some j =>
      if j.work.isSome then
        let others := (← get).jobs.filter fun j => j.number ≠ job.number
        for _ in others do
          let _ ← runReady others
        runJob j none fun _ _ => true
  | none => pure ()

/-- Takes notice of the signal by which the end of a process is told. -/
def tellEnd : Act Unit := deliver Signal.child

/-- Runs all jobs to their ends. -/
def finishAll : Act Unit := do
  let jobs := (← get).jobs
  runAllReady jobs.length
  for job in (← get).jobs do
    runJob job none fun _ _ => true
  if jobs.any fun j => j.work.isSome then tellEnd
  notice
  receive

/-- Runs something and says whether it has waited, of which nobody else takes notice. -/
def waiting {α : Type} (body : Act α) : Act (α × Bool) := do
  let set' := fun (waits : Bool) => machine (Step.modifyCommon fun c => { c with waits := waits })
  let before := (← get).process.common.waits
  set' false
  let a ← body
  let waits := (← get).process.common.waits
  set' before
  return (a, waits)

/-- Runs something that may wait for what jobs write: while it does, a job is run first, and it
begins anew. -/
def fed {α : Type} (body : Act α) : (count : Nat) → Act α
  | 0 => body
  | count + 1 => do
      let s ← get
      let (a, waits) ← waiting body
      if waits then
        let after ← get
        set s
        if ← runReady s.jobs then fed body count
        else
          set after
          machine Step.await
          return a
      else return a

/-- Runs a subshell and waits for its end.  Where its time was over, so is that of the shell. -/
def waitFor (body : Act Ending) : Act Ending := do
  match ← fed (subshell body) ((← get).jobs.length + 1) with
  | .starved => throw (.ended .starved)
  | e =>
      notice
      receive
      tellEnd
      return e

/-- Ends a job by a signal.  What it did up to now stays. -/
def killJob (job : Job) (signal : Nat) : Act Unit := do
  let now := (← get).process.common.files.now
  if job.start < now then runJob job (some now) fun _ _ => true
  match ← jobAt job.number with
  | some j =>
      if j.work.isSome ∨ j.ending = some .starved then
        setJob { j with work := none, ending := some (.killed signal) }
  | none => pure ()

/-- Puts off a subshell, whose input is empty. -/
def putOff (body : Act Ending) : Act Unit := do
  let s ← get
  let id := s.process.common.lastProcess + 1
  let number := s.jobs.foldl (fun n j => max n j.number) 0 + 1
  let emptied : Act Ending := do
    machine (do Step.connect 0 (← Step.newStream (.device .null)))
    body
  let work := fun (common : Common) =>
    let before := { s with process := { s.process with common := common } }
    let child := subshellOf before
    let child := { child with process := { child.process with id := id } }
    let (result, after) := Id.run (emptied.run.run child)
    let ending := match result with
      | .ok e | .error (.ended e) => e
      | .error _ => .exited (after.status % 256)
    (ending, after.process.common)
  modify fun s => { s with
    process := { s.process with common := { s.process.common with lastProcess := id } }
    jobs := s.jobs ++ [⟨number, id, s.process.common.files.now, some work, none, false⟩]
    latestJob := some id }

/-- Runs a program as a process of its own, waits for its end, and gives its status. -/
def runProgram (launch : Launcher) (p : Program) : Act Nat := do
  let before := (← get).process.common.files.now
  let ending ← waitFor (become launch p)
  if before < (← get).process.common.files.now then
    runDue
    notice
  announce ending
  return ending.status

end Act

end Bootstrap.Shell
