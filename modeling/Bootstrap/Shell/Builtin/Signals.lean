import Bootstrap.Shell.Job

/-!
# Signals and jobs

The builtin commands that arrange what is done at signals, send them, and wait for
and list jobs.
-/

namespace Bootstrap.Shell.Builtin

open Machine

/-- The name of a signal in the shell's lists; zero stands for the end of the shell. -/
def signalName (n : Nat) : Raw :=
  if n = 0 then raw "EXIT"
  else if n = 34 then raw "RTMIN"
  else if n = Signal.greatest then raw "RTMAX"
  else if 34 < n ∧ n < 50 then raw "RTMIN+" ++ Raw.ofNat (n - 34)
  else if 50 ≤ n ∧ n < Signal.greatest then raw "RTMAX-" ++ Raw.ofNat (Signal.greatest - n)
  else if n = 16 then raw "16"
  else
    match Signal.name? n with
    | some name => raw name
    | none => Raw.ofNat n

/-- The signal that a word means, by its number or by its name from `least` on. -/
def signalOf? (least : Nat) (word : Raw) : Option Nat :=
  match Raw.digits? word with
  | some n => if n ≤ Signal.greatest then some n else none
  | none =>
      (List.range (Signal.greatest + 1)).find? fun n =>
        least ≤ n && signalName n == Raw.upper word

/-- Lists what is done at signals. -/
def listTraps : Act Unit := do
  for (n, action) in (← get).traps.mergeSort fun a b => a.1 ≤ b.1 do
    Act.printLine (raw "trap -- " ++ listed action ++ ' ' :: signalName n)

/-- Arranges what is done at a signal. -/
def setTrap (n : Nat) (action : Option Raw) : Act Unit := do
  let s ← get
  let others := s.traps.filter (·.1 ≠ n)
  let ignored := s.process.ignored.filter (· ≠ n)
  let ignored := if action = some [] ∧ n ≠ 0 ∨ s.ignoredFromStart.contains n then n :: ignored
    else ignored
  set { s with
    traps := match action with
      | some text => (n, text) :: others
      | none => others
    process := { s.process with ignored := ignored } }

/-- Arranges what is done at signals, or lists it. -/
def trap (arguments : List Raw) : Act Nat := do
  let (_, operands) ← match arguments with
    | ['-'] :: _ => pure ([], arguments)
    | _ => Act.letters "" arguments
  match operands with
  | [] => listTraps; return 0
  | first :: rest =>
      let isNumber := match Raw.digits? first with
        | some n => n ≤ Signal.greatest
        | none => false
      let (action, signals) :=
        if rest.isEmpty || isNumber then (none, operands)
        else (if first = ['-'] then none else some first, rest)
      arrange action signals
where
  /-- Arranges the same for some signals. -/
  arrange (action : Option Raw) : List Raw → Act Nat
    | [] => return 0
    | word :: rest => do
        match signalOf? 0 word with
        | some n => setTrap n action; arrange action rest
        | none =>
            Act.machine (Step.errorLine (raw "trap: " ++ word ++ raw ": bad trap"))
            return 1

/-- How signals are sent. -/
def killUsage : Raw :=
  raw "Usage: kill [-s sigspec | -signum | -sigspec] [pid | job]... or\nkill -l [exitstatus]"

/-- The job that a word means. -/
def jobOf (word : Raw) : Act Job := do
  let jobs := (← get).jobs
  let found := match word.tail with
    | [] | ['%'] | ['+'] => jobs.getLast?
    | ['-'] => jobs.dropLast.getLast?
    | digits => (Raw.digits? digits).bind fun n => jobs.find? (·.number = n)
  match found with
  | some j => return j
  | none => Act.fail (raw "No such job: " ++ word)

/-- Sends a signal to a process; says whether there is one. -/
def send (signal id : Nat) : Act Bool := do
  let s ← get
  if id = s.process.id then
    if signal ≠ 0 then Act.deliver signal
    return true
  else
    match s.jobs.find? fun j => j.id = id ∧ j.ending.isNone with
    | some job =>
        if signal ≠ 0 ∧ !(Signal.isHarmless signal) then Act.killJob job signal
        return true
    | none =>
        if s.process.ancestors.contains id then
          if signal ≠ 0 then
            Act.machine (Step.modifyCommon fun c => { c with signals := c.signals ++ [(id, signal)] })
          return true
        else return false

/-- Lists the names of signals, or names the one that a status stands for. -/
def listSignals : List Raw → Act Nat
  | [] => do
      Act.printLine ['0']
      for n in List.range Signal.greatest do
        Act.printLine (signalName (n + 1))
      return 0
  | word :: _ => do
      let n ← Act.number word
      let n := if 128 < n then n - 128 else n
      if 0 < n ∧ n ≤ Signal.greatest then
        Act.printLine (signalName n)
        return 0
      else Act.fail (raw "invalid signal number or exit status: " ++ word)

/-- Sends signals. -/
def kill (arguments : List Raw) : Act Nat := do
  let usage := Act.fail killUsage
  match arguments with
  | [] => usage
  | first :: rest =>
      let (lists, signal, operands) ← match first with
        | '-' :: name =>
            match signalOf? 1 name with
            | some n => pure (false, some n, rest)
            | none =>
                let (options, operands) ←
                  Act.options "l" "s" (arguments.flatten.length + 2) arguments
                let signal ← options.foldlM (fun (signal : Option Nat) o => do
                  if o.1 = 's' then
                    match signalOf? 1 o.2 with
                    | some n => return some n
                    | none => Act.fail (raw "invalid signal number or name: " ++ o.2)
                  else return signal) none
                pure (options.any (·.1 = 'l'), signal, operands)
        | _ => pure (false, none, arguments)
      if lists then if signal.isSome then usage else listSignals operands
      else if operands.isEmpty then usage
      else sendAll (signal.getD 15) operands
where
  /-- Sends a signal to some processes.  Jobs are no groups of processes of their own, so there is
  none to send it to. -/
  sendAll (signal : Nat) : List Raw → Act Nat
    | [] => return 0
    | word :: rest => do
        let sent ← match word with
          | '%' :: _ => do
              let _ ← jobOf word
              pure false
          | '-' :: digits => do
              let _ ← Act.number digits
              pure false
          | _ => do
              let id ← Act.number word
              if id = 0 then send signal (← get).process.id else send signal id
        if !sent then Act.warn (raw (Errno.noProcess.strerror ++ "\n"))
        let status ← sendAll signal rest
        return if sent then status else 1

/-- Waits for jobs, and gives the status of the last. -/
def wait (arguments : List Raw) : Act Nat := do
  let (_, operands) ← Act.letters "" arguments
  if operands.isEmpty then
    Act.finishAll
    return 0
  else
    operands.foldlM (fun _ word => do
      let job? ← match word with
        | '%' :: _ => pure (some (← jobOf word))
        | _ => do
            let id ← Act.number word
            pure ((← get).jobs.find? (·.id = id))
      match job? with
      | none => return 127
      | some job =>
          Act.finish job
          if job.work.isSome then Act.tellEnd
          let ended ← Act.jobAt job.number
          Act.notice
          Act.receive
          match ended with
          | some { ending := some e, noticed, .. } =>
              if !noticed then Act.announce e
              return e.status
          | _ => return 127) 127

/-- What is said of a job. -/
def jobState (job : Job) : Raw :=
  match job.ending with
  | none | some .starved => raw "Running"
  | some (.exited 0) => raw "Done"
  | some (.exited n) => raw "Done(" ++ Raw.ofNat n ++ raw ")"
  | some (.killed n) => raw (Signal.description n)

/-- Lists jobs. -/
def jobs (arguments : List Raw) : Act Nat := do
  let (letters, _) ← Act.letters "lp" arguments
  Act.notice
  list letters (← get).jobs.reverse
  return 0
where
  /-- Lists jobs, the latest first.  One that has ended is forgotten then, and no longer counts for
  the signs of those behind it. -/
  list (letters : List Char) : List Job → Act Unit
    | [] => pure ()
    | job :: rest => do
        let known := (← get).jobs.reverse.map (·.number)
        let sign := if known[0]? = some job.number then "+"
          else if known[1]? = some job.number then "-" else " "
        let start := '[' :: Raw.ofNat job.number ++ raw ("] " ++ sign ++ " ")
        let id := if letters.contains 'l' then Raw.ofNat job.id ++ [' '] else []
        if letters.contains 'p' then Act.printLine (Raw.ofNat job.id)
        else Act.printLine (Raw.padRight 33 (start ++ id ++ jobState job) ' ')
        if job.ending.isSome then
          modify fun s => { s with jobs := s.jobs.filter (·.number ≠ job.number) }
        list letters rest

end Bootstrap.Shell.Builtin
