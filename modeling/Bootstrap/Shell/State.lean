import Bootstrap.Machine.Launch
import Bootstrap.Shell.Arithmetic
import Bootstrap.Shell.Script

/-!
# The state of a shell

A shell is a process that has variables, functions, aliases, positional parameters,
options, traps and jobs besides.  A step of a shell may stop it: an error does, a
request to end does, and so does the end of the process itself.

Loops and functions that are to be left are not left by a stop, but skip the commands
that are left in them, since what stands around them goes on.
-/

namespace Bootstrap.Shell

open Machine

/-- A variable. -/
structure Variable where
  /-- Its value, if it is set. -/
  value : Option Raw
  /-- Whether programs that are started get it. -/
  exported : Bool
  isReadOnly : Bool
  deriving DecidableEq, Repr

/-- What a shell is about to leave out. -/
inductive Skip where
  | nothing
  /-- The rest of some loops. -/
  | loops (count : Nat)
  /-- The rest of some loops but one, and of one turn of that. -/
  | turn (count : Nat)
  /-- The rest of a function or of a file; whether a status was chosen for it. -/
  | function (chosen : Bool)
  deriving DecidableEq, Repr

/-- A job that is not waited for. -/
structure Job where
  number : Nat
  id : Nat
  /-- When it began. -/
  start : Int
  /-- What it does, until it has done it. -/
  work : Option (Common → Ending × Common)
  ending : Option Ending
  /-- Whether the shell took notice of its end. -/
  noticed : Bool

/-- Something that a function has to put back. -/
inductive Kept where
  | variable (name : Raw) (before : Option Variable)
  | options (before : List Char)

/-- A shell. -/
structure Shell where
  process : Process
  /-- The path of the current directory, as it was come to. -/
  directory : Raw
  bindings : List (Raw × Variable)
  functions : List (Raw × Command)
  aliases : List (Raw × Raw)
  positional : List Raw
  /-- The name of the shell or of its script. -/
  name : Raw
  /-- The letters of the options that are on. -/
  options : List Char
  /-- What functions have to put back, the present one first. -/
  kept : List (List Kept)
  /-- The status of the last command. -/
  status : Nat
  /-- The status that counts when the shell ends, if it is another. -/
  finalStatus : Option Nat
  /-- The status of the last script whose output was taken by the present command. -/
  outputStatus : Nat
  skip : Skip
  /-- How many loops the present command is in. -/
  loops : Nat
  /-- How many functions the present command is in. -/
  calls : Nat
  /-- The line of the present command. -/
  line : Nat
  /-- The builtin command at work. -/
  command : Option Raw
  /-- What is done at signals; zero stands for the end of the shell. -/
  traps : List (Nat × Raw)
  /-- Signals that came and were not dealt with. -/
  caught : List Nat
  /-- Signals of which no notice was taken when the shell began. -/
  ignoredFromStart : List Nat
  jobs : List Job
  /-- The latest job in the background. -/
  latestJob : Option Nat
  /-- The shell that all subshells belong to. -/
  rootId : Nat
  /-- The texts that redirections read. -/
  texts : Array Word
  /-- The files that commands were found in. -/
  located : List (Raw × Raw)
  /-- The option that is read next: its argument, and what is left of that. -/
  nextOption : Nat × Option Nat

/-- Why a shell stops. -/
inductive Stop where
  /-- An error was reported. -/
  | error
  /-- The last command was run. -/
  | finished
  /-- The end was asked for. -/
  | exit
  /-- The process is no more. -/
  | ended (e : Ending)
  deriving DecidableEq, Repr

/-- A step of a shell. -/
abbrev Act := ExceptT Stop (StateM Shell)

namespace Act

variable {α : Type}

/-- A step of the process that the shell is. -/
def machine (step : Step α) : Act α := do
  let s ← get
  let (result, process) := Id.run (step.run.run s.process)
  set { s with process := process }
  match result with
  | .ok a => return a
  | .error e => throw (.ended e)

/-- Runs a step; a stop is handed on as a value. -/
def observe (step : Act α) : Act (Except Stop α) := do
  let s ← get
  let (result, s) := Id.run (step.run.run s)
  set s
  return result

/-- Repeats a step on a value as long as it says so; a step that is repeated without end goes no
further. -/
def iterate {σ : Type} (step : σ → Act (σ × Bool)) : (limit : Nat) → σ → Act σ
  | 0, _ => throw (.ended .starved)
  | limit + 1, value => do
      match ← step value with
      | (next, true) => iterate step limit next
      | (last, false) => return last

/-- How often a loop is gone through at most. -/
def turnLimit : Nat := 1000000

/-- Has something printed by the builtin command at work, when that has done its work. -/
def print (text : Raw) : Act Unit := machine (Step.printLater text)

/-- Has a line printed. -/
def printLine (text : Raw) : Act Unit := machine (Step.printLine text)

/-- Sets the status. -/
def setStatus (n : Nat) : Act Unit := modify fun s => { s with status := n }

/-- Writes a message in the name of the shell, with the line and the builtin command at work. -/
def warn (message : Raw) : Act Unit := do
  let s ← get
  let command := match s.command with
    | some c => c ++ raw ": "
    | none => []
  machine (Step.errorLine
    (s.name ++ raw ": " ++ Raw.ofNat s.line ++ raw ": " ++ command ++ message))

/-- Reports an error and stops. -/
def fail (message : Raw) : Act α := do
  warn message
  setStatus 2
  throw .error

/-- Whether an option is on. -/
def has (option : Char) : Act Bool := do return (← get).options.contains option

/-- Switches an option on or off. -/
def setOption (option : Char) (on : Bool) : Act Unit :=
  modify fun s =>
    let others := s.options.filter (· ≠ option)
    { s with options := if on then option :: others else others }

/-- Where a redirection or a command finds nothing. -/
inductive Purpose where
  | opening
  | creating
  | running

/-- Why something could not be done, for a purpose. -/
def reason (e : Errno) (p : Purpose) : Raw :=
  if e = .noEntry ∨ e = .notDirectory then
    match p with
    | .opening => raw "No such file"
    | .creating => raw "Directory nonexistent"
    | .running => raw "not found"
  else raw e.strerror

/-- Reads options in front of operands.  A letter in `withValue` takes a value. -/
def options (letters withValue : String) : (fuel : Nat) → List Raw →
    Act (List (Char × Raw) × List Raw)
  | 0, arguments => return ([], arguments)
  | fuel + 1, arguments => do
      match arguments with
      | ['-', '-'] :: rest => return ([], rest)
      | ('-' :: c :: more) :: rest =>
          if withValue.toList.contains c then
            match more, rest with
            | [], [] => fail (raw "No arg for -" ++ c :: raw " option")
            | [], value :: rest =>
                let (others, operands) ← options letters withValue fuel rest
                return ((c, value) :: others, operands)
            | value, rest =>
                let (others, operands) ← options letters withValue fuel rest
                return ((c, value) :: others, operands)
          else if letters.toList.contains c then
            let next := if more.isEmpty then rest else ('-' :: more) :: rest
            if more = ['-'] then fail (raw "Illegal option --")
            else
              let (others, operands) ← options letters withValue fuel next
              return ((c, []) :: others, operands)
          else fail (raw "Illegal option -" ++ [c])
      | rest => return ([], rest)

/-- The letters of options in front of operands. -/
def letters (allowed : String) (arguments : List Raw) : Act (List Char × List Raw) := do
  let (found, operands) ←
    options allowed "" (arguments.flatten.length + arguments.length + 1) arguments
  return (found.map (·.1), operands)

/-- The number that a word writes, not less than zero. -/
def number (word : Raw) : Act Nat := do
  match numberOf? (some 10) word with
  | some n =>
      if 0 ≤ n ∧ n ≤ 2147483647 then return n.toNat else fail (raw "Illegal number: " ++ word)
  | none => fail (raw "Illegal number: " ++ word)

end Act

end Bootstrap.Shell
