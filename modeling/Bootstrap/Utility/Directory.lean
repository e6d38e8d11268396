import Bootstrap.FileSystem.Permission
import Bootstrap.Utility.Arguments

/-!
# Utilities that make and remove directories

They also make other things that are empty at first: pipes with names, and files and
directories whose names nobody has used.
-/

namespace Bootstrap.Utility

open Machine

/-- The bits that an option asks for, in place of the usual ones. -/
def modeOption (a : Arguments) (usual : Nat) : Step (Option Nat) := do
  match a.value? "m" with
  | none => return none
  | some text =>
      match ModeChange.ofText? text with
      | some change => return some (change.apply (← get).mask true usual)
      | none =>
          Step.complain (raw "invalid mode " ++ NameQuoted.always text)
          Step.exit 1

/-- Makes a directory with bits of which the mask takes some. -/
def makeDirectory (name : Raw) (mode : Nat) : Step (Except Errno Unit) := do
  let mask := (← get).mask
  Step.change fun fs cwd => fs.makeDirectory cwd name.path (FileSystem.masked mask mode)

/-- Sets the bits of the file with a name. -/
def setMode (name : Raw) (mode : Nat) : Step (Except Errno Unit) :=
  Step.change fun fs cwd => fs.setMode cwd name.path mode

/-- The paths that a path goes through, the shortest first, and the path itself. -/
def leadingPaths (name : Raw) : List Raw :=
  let cut := Raw.dropEndWhile (· == '/') name
  let positions := (List.range cut.length).filter fun i =>
    cut[i]? = some '/' ∧ 0 < i ∧ cut[i - 1]? ≠ some '/'
  positions.map (cut.take ·) ++ [if cut.isEmpty then name else cut]

/-- Makes directories with all those they lie in, as far as they are missing.  What was made is told
to `tell`; a failure names the directory that could not be made. -/
def makeDirectories (tell : Raw → Step Unit) (name : Raw) (mode : Option Nat) :
    Step (Except (Raw × Errno) Unit) := do
  let paths := leadingPaths name
  paths.zipIdx.foldlM (fun result (path, i) => do
    match result with
    | .error e => return .error e
    | .ok () =>
        let isLast := i + 1 == paths.length
        match ← makeDirectory path 0o777 with
        | .ok () =>
            tell path
            match mode with
            | some m => if isLast then let _ ← setMode path m
            | none => pure ()
            return .ok ()
        | .error e =>
            if ← Step.isDirectory path then return .ok ()
            else if e = .fileExists ∧ !isLast then return .error (path, .notDirectory)
            else return .error (path, e)) (.ok ())

/-- Makes directories. -/
def mkdir (words : List Raw) : Step Nat := do
  let a ← arguments 1 ⟨"m:pvZ",
    [("mode", .required, "m"), ("parents", .none, "p"), ("verbose", .none, "v")], false⟩ words
  if a.operands.isEmpty then missingOperand 1
  else
    let mode ← modeOption a 0o777
    let tell := fun (name : Raw) =>
      if a.has "v" then Step.printLine (raw "mkdir: created directory " ++ NameQuoted.always name)
      else pure ()
    onEach a.operands fun name => do
      if a.has "p" then
        match ← makeDirectories tell name mode with
        | .ok () => return 0
        | .error (path, e) => complainOf "cannot create directory " path e; return 1
      else
        match ← makeDirectory name 0o777 with
        | .error e => complainOf "cannot create directory " name e; return 1
        | .ok () =>
            match mode with
            | some m => let _ ← setMode name m
            | none => pure ()
            tell name
            return 0

/-- Removes the directories above a path, as long as that works. -/
def removeAbove (tell : Raw → Step Unit) : List Raw → Step (Except (Raw × Errno) Unit)
  | [] => return .ok ()
  | path :: rest => do
      tell path
      match ← Step.change fun fs cwd => fs.removeDirectory cwd path.path with
      | .ok () => removeAbove tell rest
      | .error e => return .error (path, e)

/-- Removes empty directories. -/
def rmdir (words : List Raw) : Step Nat := do
  let a ← arguments 1 ⟨"pv",
    [("parents", .none, "p"), ("verbose", .none, "v"),
      ("ignore-fail-on-non-empty", .none, "ignore")], false⟩ words
  if a.operands.isEmpty then missingOperand 1
  else
    let tell := fun (name : Raw) =>
      if a.has "v" then Step.printLine (raw "rmdir: removing directory, " ++ NameQuoted.always name)
      else pure ()
    let forgiven := fun (e : Errno) => a.has "ignore" && e = .notEmpty
    onEach a.operands fun name => do
      tell name
      match ← Step.change fun fs cwd => fs.removeDirectory cwd name.path with
      | .error e =>
          if forgiven e then return 0
          else complainOf "failed to remove " name e; return 1
      | .ok () =>
          if !a.has "p" then return 0
          else
            match ← removeAbove tell (leadingPaths name).dropLast.reverse with
            | .ok () => return 0
            | .error (path, e) =>
                if forgiven e then return 0
                else complainOf "failed to remove directory " path e; return 1

/-- Makes pipes with names. -/
def mkfifo (words : List Raw) : Step Nat := do
  let a ← arguments 1 ⟨"m:", [("mode", .required, "m")], false⟩ words
  if a.operands.isEmpty then missingOperand 1
  else
    let asked ← modeOption a 0o666
    let mode := asked.getD (FileSystem.masked (← get).mask 0o666)
    onEach a.operands fun name => do
      match ← Step.change fun fs cwd => fs.makePipe cwd name.path mode with
      | .ok () => return 0
      | .error e => complainOf "cannot create fifo " name e; return 1

/-! ## Names that nobody has used -/

/-- A name of some characters that depends on a number. -/
def freshName (length number : Nat) : Raw :=
  let letters := raw "abcdefghijklmnopqrstuvwxyzABCDEFGHIJKLMNOPQRSTUVWXYZ0123456789"
  (List.range length).map fun i => letters.getD (number / Nat.pow 7 i * (i + 3) % letters.length) 'a'

/-- Makes a file or a directory with a name that nobody has used, and prints the name. -/
def mktemp (words : List Raw) : Step Nat := do
  let a ← arguments 1 ⟨"dup:qt",
    [("directory", .none, "d"), ("dry-run", .none, "u"), ("tmpdir", .optional, "p"),
      ("quiet", .none, "q"), ("suffix", .required, "suffix")], false⟩ words
  match a.operands with
  | _ :: _ :: _ => misuse 1 (raw "too many templates")
  | operands =>
      let template := operands.headD (raw "tmp.XXXXXXXXXX")
      let suffix := (a.value? "suffix").getD
        (template.reverse.takeWhile (· ≠ 'X')).reverse
      let body := if a.has "suffix" then template else template.take (template.length - suffix.length)
      let count := (body.reverse.takeWhile (· == 'X')).length
      if count < 3 then
        Step.complain (raw "too few X's in template " ++ NameQuoted.always template)
        return 1
      else
        let told ← Step.setting? "TMPDIR"
        let usual := (told.filter (!·.isEmpty)).getD (raw "/tmp")
        let directory? := match a.value? "p" with
          | some [] => some usual
          | some d => some d
          | none => if a.has "t" || operands.isEmpty then some usual else none
        let placed := fun (text : Raw) => match directory? with
          | some d => (if d.getLast? = some '/' then d else d ++ ['/']) ++ text
          | none => text
        let c := (← get).common
        let number := c.streams.size + 31 * c.lastProcess + 101 * c.files.nodes.length
        modify fun p => { p with common := { p.common with lastProcess := p.common.lastProcess + 1 } }
        let name := placed (body.take (body.length - count) ++ freshName count number ++ suffix)
        let made ← if a.has "u" then pure (.ok ())
          else if a.has "d" then
            Step.change fun fs cwd => fs.makeDirectory cwd name.path 0o700
          else Step.change fun fs cwd => fs.createNew cwd name.path 0o600
        match made with
        | .ok () => Step.printLine name; return 0
        | .error e =>
            if !a.has "q" then
              Step.complain (raw "failed to create " ++ raw (if a.has "d" then "directory" else "file") ++
                raw " via template " ++ NameQuoted.always (placed template) ++ raw ": " ++ raw e.strerror)
            return 1

end Bootstrap.Utility
