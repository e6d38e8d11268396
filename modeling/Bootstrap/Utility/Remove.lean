import Bootstrap.Utility.Arguments

/-!
# Utilities that remove

Files are removed by their names, and directories with everything below them if that
is asked for.
-/

namespace Bootstrap.Utility

open Machine

/-- The path of a name in a directory. -/
def within (directory name : Raw) : Raw :=
  if directory.getLast? = some '/' then directory ++ name else directory ++ '/' :: name

/-- The last component of a path, without slashes behind it. -/
def lastComponent (name : Raw) : Raw :=
  let cut := Raw.dropEndWhile (· == '/') name
  (cut.reverse.takeWhile (· ≠ '/')).reverse

/-- How removing is done. -/
structure Removing where
  recursive : Bool
  forced : Bool
  /-- Whether empty directories are removed too. -/
  directories : Bool
  asks : Bool
  tells : Bool

/-- What an entry is called in questions. -/
def kindName (e : Entry) : Raw :=
  match e with
  | .file content _ => raw (if content.isEmpty then "regular empty file" else "regular file")
  | .directory _ => raw "directory"
  | .link _ => raw "symbolic link"
  | .device _ => raw "character special file"
  | .pipe _ => raw "fifo"

/-- Asks a question, to which the first letter of a line from the standard input is the answer. -/
def agrees (question : Raw) : Step Bool := do
  Step.flush
  let _ ← Step.write 2 ((← get).name ++ raw ": " ++ question ++ raw "? ")
  match ← Step.ahead 0 with
  | .error _ => return false
  | .ok text =>
      let line := text.takeWhile (· ≠ '\n')
      Step.skip 0 (line.length + 1)
      return line.head? == some 'y' || line.head? == some 'Y'

/-- Removes what a name stands for; `fuel` bounds the depth of directories. -/
def removeEntry (r : Removing) : (fuel : Nat) → Raw → Step Nat
  | 0, _ => return 1
  | fuel + 1, name => do
      let refuse := fun (e : Errno) => do
        complainOf "cannot remove " name e
        return 1
      match ← Step.linkStat name with
      | .error _ =>
          match ← Step.change fun fs cwd => fs.unlink cwd name.path with
          | .ok () => return 0
          | .error e =>
              if r.forced ∧ (e = .noEntry ∨ e = .notDirectory) then return 0 else refuse e
      | .ok entry =>
          if entry.isDirectory then
            if !r.recursive && !r.directories then refuse .isDirectory
            else
              let listing ← Step.look fun fs cwd => do fs.list (← fs.locate cwd name.path)
              let children := match listing with
                | .ok names => names
                | .error _ => []
              if r.directories && !r.recursive && !children.isEmpty then refuse .notEmpty
              else
                let descends ← if r.asks && !children.isEmpty then
                    agrees (raw "descend into directory " ++ NameQuoted.always name)
                  else pure true
                if !descends then return 0
                else
                  let status ← children.foldlM (fun status child => do
                    return max status (← removeEntry r fuel (within name (Raw.ofString child)))) 0
                  match listing with
                  | .error e => refuse e
                  | .ok _ =>
                      let goes ← if r.asks then
                          agrees (raw "remove directory " ++ NameQuoted.always name)
                        else pure true
                      if !goes then return status
                      else
                        match ← Step.change fun fs cwd => fs.removeDirectory cwd name.path with
                        | .ok () =>
                            if r.tells then
                              Step.printLine (raw "removed directory " ++ NameQuoted.always name)
                            return status
                        | .error e => if status = 0 then refuse e else return status
          else
            let goes ← if r.asks then
                agrees (raw "remove " ++ kindName entry ++ ' ' :: NameQuoted.always name)
              else pure true
            if !goes then return 0
            else
              match ← Step.change fun fs cwd => fs.unlink cwd name.path with
              | .ok () =>
                  if r.tells then Step.printLine (raw "removed " ++ NameQuoted.always name)
                  return 0
              | .error e => refuse e

/-- The options of `rm`. -/
def removeOptions : Options :=
  ⟨"dfirRvI",
    [("force", .none, "f"), ("recursive", .none, "r"), ("dir", .none, "d"), ("verbose", .none, "v"),
      ("interactive", .optional, "i"), ("one-file-system", .none, "one"),
      ("preserve-root", .optional, "preserve"), ("no-preserve-root", .none, "careless")], false⟩

/-- Removes files. -/
def rm (words : List Raw) : Step Nat := do
  let a ← arguments 1 removeOptions words
  let forced := a.lastOf ["f", "i"] == some "f"
  if a.operands.isEmpty then if forced then return 0 else missingOperand 1
  else
    let r : Removing :=
      { recursive := a.hasAny ["r", "R"]
        forced := forced
        directories := a.has "d"
        asks := a.lastOf ["f", "i"] == some "i"
        tells := a.has "v" }
    onEach a.operands fun name => do
      let last := lastComponent name
      let isRoot := last.isEmpty && name.head? == some '/'
      if r.recursive && (last = ['.'] || last = ['.', '.']) then
        Step.complain (raw "refusing to remove '.' or '..' directory: skipping " ++
          NameQuoted.always name)
        return 1
      else if r.recursive && isRoot && !a.has "careless" then
        Step.complain (raw "it is dangerous to operate recursively on '/'")
        Step.complain (raw "use --no-preserve-root to override this failsafe")
        return 1
      else removeEntry r 4096 name

/-- Removes a name. -/
def unlink (words : List Raw) : Step Nat := do
  let a ← arguments 1 (plainOptions "") words
  match a.operands with
  | [] => missingOperand 1
  | [name] =>
      match ← Step.change fun fs cwd => fs.unlink cwd name.path with
      | .ok () => return 0
      | .error e => complainOf "cannot unlink " name e; return 1
  | _ :: extra :: _ => extraOperand 1 extra

end Bootstrap.Utility
