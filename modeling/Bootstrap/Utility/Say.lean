import Bootstrap.Text.Formatted
import Bootstrap.Utility.Arguments

/-!
# Utilities that say something

They print what they are told to, or what they know of the process and the system.
-/

namespace Bootstrap.Utility

open Machine

/-- Ends with success. -/
def succeed (_ : List Raw) : Step Nat := return 0

/-- Ends without success. -/
def refuse (_ : List Raw) : Step Nat := return 1

/-- Whether an argument of `echo` is made of options. -/
def isEchoOption : Raw → Bool
  | '-' :: c :: rest => (c :: rest).all fun c => "neE".toList.contains c
  | _ => false

/-- Prints its arguments with blanks between them. -/
def echo (words : List Raw) : Step Nat := do
  let options := words.takeWhile isEchoOption
  let letters := options.flatMap List.tail
  let text := Raw.spaced (words.drop options.length)
  let escapes := (letters.filter (· ≠ 'n')).getLast? = some 'e'
  let ends := if letters.contains 'n' then [] else ['\n']
  if escapes then
    let printed := Formatted.escapes true (text.length + 1) text []
    Step.printLater (printed.latest.reverse ++ if printed.stopped then [] else ends)
  else Step.printLater (text ++ ends)
  return 0

/-- How the utility that prints formats words its complaints. -/
def dialect : Formatted.Dialect :=
  { hexadecimal := true
    quotes := true
    zeroByte := false
    complaint := fun
      | .noNumber a => NameQuoted.always a ++ raw ": expected a numeric value"
      | .rest a _ => NameQuoted.always a ++ raw ": value not completely converted"
      | .range a => NameQuoted.always a ++ raw ": Numerical result out of range"
    invalid := fun text => text ++ raw ": invalid conversion specification"
    unfinished := raw "%: invalid conversion specification" }

/-- Prints arguments in a format. -/
def printf (words : List Raw) : Step Nat := do
  match words.filter fun w => w ≠ ['-', '-'] with
  | [] => missingOperand 1
  | _ =>
      let words := if words.head? = some ['-', '-'] then words.tail else words
      let format := words.headD []
      let use := Formatted.print dialect format words.tail
      Step.printLater use.text
      for c in use.complaints do
        Step.complain (dialect.complaint c)
      match use.fault with
      | some message => Step.complain message; return 1
      | none =>
          if !use.asked ∧ !use.arguments.isEmpty then
            Step.complain (raw "warning: ignoring excess arguments, starting with " ++
              NameQuoted.always (use.arguments.headD []))
          return if use.complaints.isEmpty then 0 else 1

/-- Prints a text again and again, until nobody reads it any more. -/
def yes (words : List Raw) : Step Nat := do
  let line := (if words.isEmpty then ['y'] else Raw.spaced words) ++ ['\n']
  let block := (List.replicate (8192 / line.length + 1) line).flatten
  again block (Step.captureRoom / block.length + 2)
where
  /-- Prints a block so many times. -/
  again (block : Raw) : Nat → Step Nat
    | 0 => throw .starved
    | n + 1 => do
        match ← Step.write 1 block with
        | .ok () => again block n
        | .error e =>
            Step.complain (raw "standard output: " ++ raw e.strerror)
            return 1

/-- The number of nanoseconds that a duration means. -/
def duration? (text : Raw) : Option Nat := do
  let (x, rest) ← Decimal.leading? text
  let unit ← match rest with
    | [] | ['s'] => some 1
    | ['m'] => some 60
    | ['h'] => some 3600
    | ['d'] => some 86400
    | _ => none
  if x < 0 ∨ text.head? = some ' ' then none
  else
    match Decimal.kindOf x with
    | .finite _ m => return m.scaled 9 * unit
    | .infinite _ => return 1000000000000000000000
    | .notNumber => none

/-- Lets time pass. -/
def sleep (words : List Raw) : Step Nat := do
  let a ← arguments 1 (plainOptions "") words
  if a.operands.isEmpty then missingOperand 1
  else
    let wrong := a.operands.filter fun w => (duration? w).isNone
    for w in wrong do
      Step.complain (raw "invalid time interval " ++ NameQuoted.always w)
    if !wrong.isEmpty then giveUp 1
    else
      Step.sleep ((a.operands.filterMap duration?).foldl Nat.add 0)
      return 0

/-- Prints the path of the current directory. -/
def pwd (words : List Raw) : Step Nat := do
  let a ← arguments 1 ⟨"LP", [("logical", .none, "L"), ("physical", .none, "P")], false⟩ words
  let p ← get
  match p.common.files.currentDirectory p.cwd with
  | .error e =>
      Step.complain (raw "couldn't find directory entry in '..' with matching i-node: " ++
        raw e.strerror)
      return 1
  | .ok path =>
      let told := (← Step.setting? "PWD").getD []
      let leadsHere := match p.common.files.locate p.cwd told.path with
        | .ok place => place == p.cwd
        | .error _ => false
      let usable := told.head? == some '/' && leadsHere
      Step.printLine (if a.lastOf ["L", "P"] == some "L" && usable then told
        else Raw.ofString path.text)
      return 0

/-- Prints variables of the environment. -/
def printenv (words : List Raw) : Step Nat := do
  let a ← arguments 2 ⟨"0", [("null", .none, "0")], true⟩ words
  let ending := if a.has "0" then Raw.byte 0 else '\n'
  let environment := (← get).environment
  if a.operands.isEmpty then
    for (name, value) in environment do
      Step.printLater (name ++ '=' :: value ++ [ending])
    return 0
  else
    onEach a.operands fun name => do
      match environment.lookup name with
      | some value => Step.printLater (value ++ [ending]); return 0
      | none => return 1

/-- Prints the name of the user. -/
def whoami (_ : List Raw) : Step Nat := do
  Step.printLine (raw "root")
  return 0

/-- Prints who the user is. -/
def id (words : List Raw) : Step Nat := do
  let a ← arguments 1 (plainOptions "agGnruz") words
  let number := !a.has "n"
  if a.hasAny ["u", "g", "G"] then Step.printLine (raw (if number then "0" else "root"))
  else Step.printLine (raw "uid=0(root) gid=0(root) groups=0(root)")
  return 0

/-- Prints what the system is. -/
def uname (words : List Raw) : Step Nat := do
  let a ← arguments 1 (plainOptions "asnrvmpio") words
  let all := a.has "a"
  let parts := [("s", "Linux"), ("n", "localhost"), ("r", "6.1.0"), ("v", "#1 SMP"),
    ("m", "x86_64"), ("o", "GNU/Linux")]
  let chosen := parts.filter fun p => all || a.has p.1 || (a.options.isEmpty && p.1 == "s")
  Step.printLine (Raw.spaced (chosen.map fun p => raw p.2))
  return 0

/-- Says that there is no terminal. -/
def tty (words : List Raw) : Step Nat := do
  if words ≠ [['-', 's']] then Step.printLine (raw "not a tty")
  return 1

/-- Prints how many processors there are. -/
def nproc (_ : List Raw) : Step Nat := do
  Step.printLine ['4']
  return 0

end Bootstrap.Utility
