import Bootstrap.FileSystem.Permission
import Bootstrap.Shell.Variables

/-!
# The current directory

The shell remembers by which path it came to its current directory, links and all.
Steps up are taken on that path, not in the tree.
-/

namespace Bootstrap.Shell.Builtin

open Machine

/-- The names of a path, from which the steps up are taken away. -/
def flattened (names : List Raw) (path : Raw) : List Raw :=
  (path.splitOn '/').foldl (fun acc name =>
    if name.isEmpty ∨ name = ['.'] then acc
    else if name = ['.', '.'] then acc.dropLast
    else acc ++ [name]) names

/-- The path that one comes to from a directory by a path. -/
def pathFrom (directory path : Raw) : Raw :=
  let front := if path.head? = some '/' then path else directory
  let slashes : Raw := match front with
    | '/' :: '/' :: c :: _ => if c = '/' then ['/'] else ['/', '/']
    | ['/', '/'] => ['/', '/']
    | _ => ['/']
  let start := if path.head? = some '/' then [] else flattened [] directory
  slashes ++ Raw.joined ['/'] (flattened start path)

/-- The path of the current directory, free of links. -/
def physicalDirectory : Act (Except Errno Raw) := do
  let p := (← get).process
  return (p.common.files.currentDirectory p.cwd).map fun path => Raw.ofString path.text

/-- Notes the path of the current directory. -/
def noteDirectory (path : Raw) (keepsOld : Bool) : Act Unit := do
  let s ← get
  let name := raw "PWD"
  if keepsOld then
    Act.assign (raw "OLDPWD") s.directory
    Act.exportName (raw "OLDPWD")
  modify fun s => { s with directory := path }
  Act.assign name path
  Act.exportName name

/-- Changes the directory; says whether that could be done. -/
def enter (path : Raw) (physical : Bool) : Act Bool := do
  let s ← get
  let there := if physical then path else pathFrom s.directory path
  let files := s.process.common.files
  match files.locate s.process.cwd there.path with
  | .error _ => return false
  | .ok place =>
      match files.entryAt? place with
      | some entry =>
          if entry.isDirectory && entry.allows 1 then
            modify fun s => { s with process := { s.process with cwd := place } }
            let shown := if physical then Raw.ofString (FileSystem.pathOf place).text else there
            noteDirectory shown true
            return true
          else return false
      | none => return false

/-- Whether a path begins with the current directory or the one above it. -/
def isExplicit (path : Raw) : Bool :=
  path.head? = some '/' || ((path.splitOn '/').headD [] == ['.']) ||
    ((path.splitOn '/').headD [] == ['.', '.'])

/-- The options that say whether links count. -/
def physicalOption (arguments : List Raw) : Act (Bool × List Raw) := do
  let (letters, operands) ← Act.letters "LP" arguments
  return (letters.getLast? == some 'P', operands)

/-- The first directory of the search path for directories in which there is one of that name. -/
def searchDirectory (name : Raw) : List Raw → Act (Option (Raw × Bool))
  | [] => return none
  | base :: rest => do
      let path := if base.isEmpty then name else base ++ '/' :: name
      if ← Act.machine (Step.isDirectory path) then return some (path, !base.isEmpty)
      else searchDirectory name rest

/-- Changes the current directory. -/
def cd (arguments : List Raw) : Act Nat := do
  let (physical, operands) ← physicalOption arguments
  let (goal, shows) ← match operands with
    | ['-'] :: _ => pure (((← Act.value? (raw "OLDPWD")).getD []), true)
    | path :: _ => pure (path, false)
    | [] => pure (((← Act.value? (raw "HOME")).getD []), false)
  let found ← if isExplicit goal then pure none
    else
      let path := ((← Act.value? (raw "CDPATH")).getD []).splitOn ':'
      searchDirectory (if goal.isEmpty then ['.'] else goal) path
  let (path, told) := found.getD (goal, false)
  if ← enter path physical then
    if shows || told then Act.printLine (← get).directory
    return 0
  else Act.fail (raw "can't cd to " ++ goal)

/-- Prints the path of the current directory. -/
def pwd (arguments : List Raw) : Act Nat := do
  let (physical, _) ← physicalOption arguments
  if physical then
    match ← physicalDirectory with
    | .ok path => Act.printLine path
    | .error e =>
        Act.warn (raw "getcwd() failed: " ++ raw e.strerror)
        Act.printLine []
  else Act.printLine (← get).directory
  return 0

/-- Shows or sets what new files may not be. -/
def umask (arguments : List Raw) : Act Nat := do
  let (letters, operands) ← Act.letters "S" arguments
  let mask := (← get).process.mask
  let setMask := fun (n : Nat) =>
    modify fun (s : Shell) => { s with process := { s.process with mask := n % 512 } }
  match operands with
  | [] =>
      if letters.isEmpty then Act.printLine (Raw.padLeft 4 (Nat.toDigits 8 mask) '0')
      else Act.printLine (ModeChange.symbolic (511 - mask))
      return 0
  | word :: _ =>
      if (word.headD ' ').isDigit then
        match Raw.inBase? 8 word with
        | some n => setMask n; return 0
        | none => Act.fail (raw "Illegal number: " ++ word)
      else
        match ModeChange.clauses? word with
        | some change => setMask (511 - change.apply 0 false (511 - mask) % 512); return 0
        | none => Act.fail (raw "Illegal mode: " ++ word)

end Bootstrap.Shell.Builtin
