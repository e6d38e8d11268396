import Bootstrap.Shell.Source
import Bootstrap.Shell.Variables

/-!
# What names of commands mean

A name is a word of the language, an alias, a function, a builtin command, or a
program on the search path, and means the first of these that it is.  Where programs
were found is remembered.
-/

namespace Bootstrap.Shell.Builtin

open Machine

/-- A kind of builtin command. -/
structure Kind where
  /-- Whether it is part of the language: its errors end the shell, and assignments in front of it
  stay. -/
  isSpecial : Bool
  /-- Whether its arguments may be assignments. -/
  assigns : Bool
  deriving DecidableEq, Repr

/-- The names of builtin commands of each kind. -/
def names : List (Kind × List String) :=
  [(⟨true, false⟩, [".", ":", "break", "continue", "eval", "exec", "exit", "return", "set", "shift",
      "times", "trap", "unset"]),
    (⟨true, true⟩, ["export", "readonly", "local"]),
    (⟨false, true⟩, ["alias"]),
    (⟨false, false⟩, ["[", "bg", "cd", "chdir", "command", "echo", "false", "fg", "getopts", "hash",
      "jobs", "kill", "printf", "pwd", "read", "test", "true", "type", "ulimit", "umask", "unalias",
      "wait"])]

/-- The kind of the builtin command with a name. -/
def kindOf? (name : Raw) : Option Kind :=
  (names.find? fun k => k.2.any fun n => raw n = name).map (·.1)

/-- The path of a program, which is remembered. -/
def locate (path name : Raw) : Act (Except Errno Raw) := do
  let p := (← get).process
  if name.contains '/' then
    match p.common.files.stat p.cwd name.path with
    | .ok _ => return .ok name
    | .error e => return .error e
  else
    match Program.locate p.common.files p.cwd name .noEntry (path.splitOn ':') with
    | .ok found =>
        modify fun s => { s with located := (name, found) :: s.located.filter (·.1 ≠ name) }
        return .ok found
    | .error e => return .error e

/-- An alias as it is listed. -/
def aliasLine (name value : Raw) : Raw := name ++ '=' :: listed value

/-- Says what a name means, in a sentence or by a word that can be used for it. -/
def describe (inWords : Bool) (path? : Option Raw) (name : Raw) : Act Nat := do
  let s ← get
  let say := fun (sentence short : Raw) => do
    Act.printLine (if inWords then name ++ raw " is " ++ sentence else short)
    return (0 : Nat)
  if (Reserved.ofText? name).isSome then say (raw "a shell keyword") name
  else
    match s.aliases.lookup name with
    | some value => say (raw "an alias for " ++ value) (raw "alias " ++ aliasLine name value)
    | none =>
        if (s.functions.lookup name).isSome then say (raw "a shell function") name
        else
          match kindOf? name with
          | some kind =>
              say (raw (if kind.isSpecial then "a special shell builtin" else "a shell builtin"))
                name
          | none =>
              match if path?.isNone then s.located.lookup name else none with
              | some path => say (raw "a tracked alias for " ++ path) path
              | none =>
                  let searched ← match path? with
                    | some p => pure p
                    | none => Act.searchPath
                  match ← locate searched name with
                  | .ok path => say path path
                  | .error _ =>
                      if inWords then Act.printLine (name ++ raw ": not found")
                      return 127

/-- Says what names mean. -/
def type (arguments : List Raw) : Act Nat :=
  arguments.foldlM (fun status name => do return status ||| (← describe true none name)) 0

/-- Says what a name means, or what can be used for it. -/
def command (arguments : List Raw) : Act Nat := do
  let (letters, operands) ← Act.letters "pvV" arguments
  match operands, letters.filter fun c => c ≠ 'p' with
  | name :: _, c :: _ =>
      describe (c = 'V') (if letters.contains 'p' then some usualPath else none) name
  | _, _ => return 0

/-- Lists where programs were found, forgets it, or finds programs. -/
def hash (arguments : List Raw) : Act Nat := do
  let (letters, operands) ← Act.letters "r" arguments
  if letters.contains 'r' then
    modify fun s => { s with located := [] }
    return 0
  else if operands.isEmpty then
    for (_, path) in (← get).located.reverse do
      Act.printLine path
    return 0
  else
    operands.foldlM (fun status name => do
      if (kindOf? name).isSome || ((← get).functions.lookup name).isSome then return status
      else
        match ← locate (← Act.searchPath) name with
        | .ok _ => return status
        | .error e =>
            Act.warn (name ++ raw ": " ++ Act.reason e .running)
            return 1) 0

/-- Defines aliases, or lists them. -/
def aliases (arguments : List Raw) : Act Nat := do
  if arguments.isEmpty then
    for (name, value) in (← get).aliases do
      Act.printLine (aliasLine name value)
    return 0
  else
    arguments.foldlM (fun status word => do
      let name := word.take 1 ++ (word.drop 1).takeWhile (· ≠ '=')
      match word.drop name.length with
      | _ :: value =>
          modify fun s => { s with aliases := (name, value) :: s.aliases.filter (·.1 ≠ name) }
          return status
      | [] =>
          match (← get).aliases.lookup name with
          | some value => Act.printLine (aliasLine name value); return status
          | none =>
              Act.machine (Step.errorLine (raw "alias: " ++ name ++ raw " not found"))
              return 1) 0

/-- Removes aliases. -/
def unalias (arguments : List Raw) : Act Nat := do
  let (letters, operands) ← Act.letters "a" arguments
  if letters.contains 'a' then
    modify fun s => { s with aliases := [] }
    return 0
  else
    operands.foldlM (fun status name => do
      if ((← get).aliases.lookup name).isSome then
        modify fun s => { s with aliases := s.aliases.filter (·.1 ≠ name) }
        return status
      else
        Act.machine (Step.errorLine (raw "unalias: " ++ name ++ raw " not found"))
        return 1) 0

end Bootstrap.Shell.Builtin
