import Bootstrap.Shell.Run

/-!
# Starting a shell

A shell takes its script from its arguments, from a file, or from its input, and its
variables from the environment.
-/

namespace Bootstrap.Shell

open Machine

namespace Start

/-- The variables that are there from the beginning. -/
def firstVariables : List (Raw × Variable) :=
  [("IFS", [' ', '\t', '\n']), ("PATH", usualPath), ("PS1", raw "$ "), ("PS2", raw "> "),
    ("PS4", raw "+ "), ("OPTIND", ['1'])].map fun (name, value) =>
      (raw name, ⟨some value, false, false⟩)

/-- The variables of a shell: those of the environment that have names of variables are handed on,
but fields are separated as usual. -/
def bindings (environment : List (Raw × Raw)) (parent : Nat) : List (Raw × Variable) :=
  let imported := environment.filter fun (name, _) => Word.isName name
  let all := imported.foldl (fun acc (name, value) =>
    putVariable name ⟨some value, true, false⟩ acc) firstVariables
  let fixed := fun (name : String) (value : Raw) (vs : List (Raw × Variable)) =>
    putVariable (raw name) ⟨some value, false, false⟩ vs
  fixed "PPID" (Raw.ofNat parent) (fixed "OPTIND" ['1'] (fixed "IFS" usualSeparators all))

/-- The state in which a shell begins in a process. -/
def state (p : Process) (name : Raw) : Shell :=
  { process := p
    directory := []
    bindings := bindings p.environment (p.ancestors.headD 1)
    functions := []
    aliases := []
    positional := []
    name := name
    options := []
    kept := []
    status := 0
    finalStatus := none
    outputStatus := 0
    skip := .nothing
    loops := 0
    calls := 0
    line := 0
    command := none
    traps := []
    caught := []
    ignoredFromStart := p.ignored
    jobs := []
    latestJob := none
    nextOption := (1, none)
    rootId := p.id
    texts := #[]
    located := [] }

/-- Notes by which path the shell came to its directory: by that of the environment, if it leads
there. -/
def noteStart : Act Unit := do
  let s ← get
  let told := ((← Act.value? (raw "PWD")).getD [])
  let physical := match ← Builtin.physicalDirectory with
    | .ok path => path
    | .error _ => []
  let path := if told.head? == some '/' && isRightPlace s told then told else physical
  Builtin.noteDirectory path false
where
  /-- Whether a path leads to the current directory. -/
  isRightPlace (s : Shell) (path : Raw) : Bool :=
    match s.process.common.files.locate s.process.cwd path.path with
    | .ok place => place == s.process.cwd
    | .error _ => false

/-- Reads the options of a shell: gives whether the script is an argument, and what is left. -/
def options : (fuel : Nat) → (isArgument : Bool) → List Raw → Act (Bool × List Raw)
  | 0, isArgument, arguments => return (isArgument, arguments)
  | fuel + 1, isArgument, arguments => do
      match arguments with
      | ['-'] :: rest | ['-', '-'] :: rest => return (isArgument, rest)
      | (sign :: letters) :: rest =>
          if sign = '-' ∨ sign = '+' then
            let inner := letters.filter fun c => c ≠ 'c' ∧ c ≠ 'l'
            let rest ← Builtin.switchLetters (sign = '-') inner rest
            options fuel (isArgument || letters.contains 'c') rest
          else return (isArgument, arguments)
      | _ => return (isArgument, arguments)

/-- What a shell does. -/
def work (launch : Launcher) (fuel : Nat) (arguments : List Raw) : Act Nat := do
  noteStart
  let (isArgument, operands) ← options (arguments.length + 1) false arguments
  let positional := fun (ps : List Raw) => modify fun (s : Shell) => { s with positional := ps }
  let named := fun (name : Raw) => modify fun (s : Shell) => { s with name := name }
  match operands with
  | [] =>
      if isArgument then Act.fail (raw "-c requires an argument")
      else
        Act.setOption 's' true
        fromInput
  | first :: rest =>
      if isArgument then
        match rest with
        | name :: ps => named name; positional ps
        | [] => pure ()
        let fromInput? ← Act.has 's'
        let status ← runText launch fuel ⟨false, !fromInput?⟩ false first
        if fromInput? then fromInput else return status
      else if ← Act.has 's' then
        positional operands
        fromInput
      else
        let text ← Act.openScript first
        named first
        positional rest
        runText launch fuel ⟨false, false⟩ true text
where
  /-- Runs the script that is read from the standard input. -/
  fromInput : Act Nat := do
    match ← Act.machine (Step.readAll 0) with
    | .ok text => runText launch fuel ⟨false, false⟩ true text
    | .error _ => return 0

/-- How deep commands may lie in each other. -/
def depth : Nat := 100000

end Start

/-- The shell as a utility. -/
def start (launch : Launcher) (words : List Raw) : Step Nat := do
  let p ← get
  let before := Start.state p (words.headD [])
  let act := ended launch Start.depth (Start.work launch Start.depth words.tail)
  let (result, s) := Id.run (act.run.run before)
  set s.process
  match result with
  | .ok (.exited status) => return status
  | .ok e | .error (.ended e) => throw e
  | .error _ => return s.status

end Bootstrap.Shell
