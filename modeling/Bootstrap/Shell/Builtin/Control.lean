import Bootstrap.Shell.Variables

/-!
# Flow of control

The builtin commands that leave loops, functions and the shell, and a few that do
next to nothing.
-/

namespace Bootstrap.Shell.Builtin

open Machine

/-- Does nothing, with success. -/
def succeed (_ : List Raw) : Act Nat := return 0

/-- Does nothing, without success. -/
def refuse (_ : List Raw) : Act Nat := return 1

/-- Leaves loops. -/
def leave (isTurn : Bool) (arguments : List Raw) : Act Nat := do
  let count ← match arguments with
    | word :: _ => do
        let n ← Act.number word
        if n = 0 then Act.fail (raw "Illegal number: " ++ word) else pure n
    | [] => pure 1
  modify fun s =>
    let count := min count s.loops
    { s with skip := if count = 0 then s.skip else if isTurn then .turn count else .loops count }
  return 0

/-- Leaves a function or a file. -/
def «return» (arguments : List Raw) : Act Nat := do
  match arguments with
  | word :: _ =>
      let status ← Act.number word
      modify fun s => { s with skip := .function true }
      return status
  | [] =>
      modify fun s => { s with skip := .function false }
      return (← get).status

/-- Ends the shell. -/
def exit (arguments : List Raw) : Act Nat := do
  match arguments with
  | word :: _ =>
      let status ← Act.number word
      modify fun s => { s with finalStatus := some status }
  | [] => pure ()
  throw .exit

/-- Shows how much time was used: none to speak of. -/
def times (_ : List Raw) : Act Nat := do
  Act.printLine (raw "0m0.000000s 0m0.000000s")
  Act.printLine (raw "0m0.000000s 0m0.000000s")
  return 0

/-- The limits of a process, with what they are at first. -/
def limits : List (Char × String × Option Nat) :=
  [('t', "time(seconds)", none), ('f', "file(blocks)", none), ('d', "data(kbytes)", none),
    ('s', "stack(kbytes)", some 8192), ('c', "coredump(blocks)", none),
    ('m', "memory(kbytes)", none), ('l', "locked memory(kbytes)", some 8192),
    ('p', "process", none), ('n', "nofiles", some 1048576), ('v', "vmemory(kbytes)", none),
    ('w', "locks", none), ('r', "rtprio", some 0)]

/-- A limit as it stands. -/
def limitOf (letter : Char) : Act Limit := do
  match (← get).process.limits.lookup letter with
  | some l => return l
  | none =>
      let start := (limits.lookup letter).bind Prod.snd
      return ⟨start, start⟩

/-- The text of a limit. -/
def limitText : Option Nat → Raw
  | some n => Raw.ofNat n
  | none => raw "unlimited"

/-- Whether a limit lies below another. -/
def isBelow : Option Nat → Option Nat → Bool
  | some n, some m => n < m
  | some _, none => true
  | none, _ => false

/-- Sets a limit, which may be raised no further than before. -/
def setLimit (letter : Char) (old new : Limit) : Act Unit := do
  let refuse := fun (e : Errno) =>
    Act.fail (raw "error setting limit (" ++ raw e.strerror ++ raw ")")
  if isBelow new.hard new.soft then refuse .invalidArgument
  else if isBelow old.hard new.hard then refuse .notPermitted
  else
    modify fun s => { s with process := { s.process with
      limits := (letter, new) :: s.process.limits.filter (·.1 ≠ letter) } }

/-- Shows limits, or sets one. -/
def ulimit (arguments : List Raw) : Act Nat := do
  let (letters, operands) ← Act.letters "HSatfdscmlpnvwr" arguments
  let sets := fun (c : Char) => letters.contains c || !letters.any fun c => c = 'H' || c = 'S'
  let letter := ((letters.filter fun c => c ≠ 'H' ∧ c ≠ 'S' ∧ c ≠ 'a').getLast?).getD 'f'
  let shown := fun (l : Limit) => limitText (if sets 'S' then l.soft else l.hard)
  match operands with
  | [] =>
      if letters.contains 'a' then
        for (letter, name, _) in limits do
          Act.printLine (Raw.padRight 20 (raw name) ' ' ++ ' ' :: shown (← limitOf letter))
      else Act.printLine (shown (← limitOf letter))
      return 0
  | value :: rest =>
      if letters.contains 'a' ∨ !rest.isEmpty then Act.fail (raw "too many arguments")
      else if value ≠ raw "unlimited" ∧ !value.all Char.isDigit then Act.fail (raw "bad number")
      else
        let n := if value = raw "unlimited" then none else some ((Raw.digits? value).getD 0)
        let old ← limitOf letter
        setLimit letter old
          ⟨if sets 'S' then n else old.soft, if sets 'H' then n else old.hard⟩
        return 0

end Bootstrap.Shell.Builtin
