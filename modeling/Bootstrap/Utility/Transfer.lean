import Bootstrap.Machine.FileTest
import Bootstrap.Utility.Directory
import Bootstrap.Utility.Remove

/-!
# Utilities that copy and move

Files are copied or moved onto a name, or into a directory under the names they have.
A file that is there already is written over, unless that is not wanted; a
directory takes no file's place, and no file a directory's.
-/

namespace Bootstrap.Utility

open Machine

/-! ## Operands -/

/-- Where the operands of a utility go. -/
structure Destination where
  sources : List Raw
  target : Raw
  /-- Whether the sources go into the target. -/
  isDirectory : Bool

/-- The name of a source in a directory. -/
def Destination.nameOf (d : Destination) (source : Raw) : Raw :=
  if d.isDirectory then within d.target (lastComponent source) else d.target

/-- Reads operands, the last of which is the target unless an option names it. -/
def destination (a : Arguments) : Step Destination := do
  match a.value? "t" with
  | some directory =>
      if a.operands.isEmpty then misuse 1 (raw "missing file operand")
      else
        match ← Step.stat directory with
        | .ok e =>
            if e.isDirectory then return ⟨a.operands, directory, true⟩
            else wrongTarget "target directory " directory .notDirectory
        | .error e => wrongTarget "target directory " directory e
  | none =>
      match a.operands with
      | [] => misuse 1 (raw "missing file operand")
      | [only] => misuse 1 (raw "missing destination file operand after " ++ NameQuoted.always only)
      | first :: rest =>
          let target := rest.getLastD []
          let sources := first :: rest.dropLast
          if a.has "T" then
            match rest with
            | _ :: extra :: _ => extraOperand 1 extra
            | _ => return ⟨sources, target, false⟩
          else
            match ← Step.stat target with
            | .ok e =>
                if e.isDirectory then return ⟨sources, target, true⟩
                else if 1 < sources.length then wrongTarget "target " target .notDirectory
                else return ⟨sources, target, false⟩
            | .error e =>
                if 1 < sources.length then wrongTarget "target " target e
                else return ⟨sources, target, false⟩
where
  /-- Complains about the target, and ends the utility. -/
  wrongTarget {α : Type} (what : String) (name : Raw) (e : Errno) : Step α := do
    complainOf what name e
    Step.exit 1

/-- Says that something goes somewhere. -/
def arrow (source target : Raw) : Raw := NameQuoted.always source ++ raw " -> " ++ NameQuoted.always target

/-! ## Copying -/

/-- How copying is done. -/
structure Copying where
  recursive : Bool
  /-- Whether links are followed at the top, and below it. -/
  followsTop : Bool
  followsBelow : Bool
  forced : Bool
  /-- Whether files that are there already stay. -/
  keeps : Bool
  asks : Bool
  /-- Whether only older files are written over. -/
  updates : Bool
  tells : Bool
  /-- Whether permission bits and times are copied. -/
  preserves : Bool
  hardLinks : Bool
  softLinks : Bool
  /-- What is put behind the name of a file that is written over, to keep it. -/
  backup : Option Raw
  /-- The directory that is copied as a whole, its target, and the place of that. -/
  whole : Option (Raw × Raw × Location) := none

/-- Sets the time of the file with a name. -/
def setTime (name : Raw) (time : Int) : Step Unit := do
  let _ ← Step.change fun fs cwd => fs.setTime cwd name.path time

/-- Gives the bits and the time of one file to another. -/
def copyAttributes (source target : Raw) (mode : Nat) : Step Unit := do
  let _ ← setMode target mode
  match ← Step.time? source with
  | some time => setTime target time
  | none => pure ()

/-- Writes a text to a file that is there or is made with some bits. -/
def writeCopy (c : Copying) (target text : Raw) (mode : Nat) : Step (Except Errno Unit) := do
  match ← Step.stat target with
  | .ok _ =>
      match ← Step.writeFile target ⟨false, true, false, false⟩ text with
      | .ok () => return .ok ()
      | .error e =>
          if !c.forced then return .error e
          else
            match ← Step.change fun fs cwd => fs.unlink cwd target.path with
            | .error e => return .error e
            | .ok () => writeNew
  | .error .. => writeNew
where
  /-- Writes the text to a new file. -/
  writeNew : Step (Except Errno Unit) := do
    if target.getLast? = some '/' then return .error .notDirectory
    else
      match ← Step.change fun fs cwd => fs.createNew cwd target.path (mode ||| 0o200) with
      | .error e => return .error e
      | .ok () =>
          let written ← Step.writeFile target ⟨false, true, false, false⟩ text
          let _ ← setMode target mode
          return written

/-- Whether a file that is there is to be written over. -/
def mayReplace (c : Copying) (source target : Raw) : Step Bool := do
  if c.keeps then return false
  else if c.updates then
    match ← Step.time? source, ← Step.time? target with
    | some s, some t => return t < s
    | _, _ => return true
  else if c.asks then agrees (raw "overwrite " ++ NameQuoted.always target)
  else return true

/-- Copies what a name stands for; `fuel` bounds the depth of directories. -/
def copyEntry (c : Copying) : (fuel : Nat) → (atTop : Bool) → (source target : Raw) → Step Nat
  | 0, _, _, _ => return 1
  | fuel + 1, atTop, source, target => do
      let follows := if atTop then c.followsTop else c.followsBelow
      let fault := fun (what : String) (name : Raw) (e : Errno) => do
        complainOf what name e
        return 1
      match ← if follows then Step.stat source else Step.linkStat source with
      | .error e => fault "cannot stat " source e
      | .ok entry =>
          if entry.isDirectory && !c.recursive then
            Step.complain (raw "-r not specified; omitting directory " ++ NameQuoted.always source)
            return 1
          else
            let isLink := match entry with
              | .link _ => true
              | _ => false
            let there ← if isLink then Step.linkStat target else Step.stat target
            match there with
            | .error e =>
                if e = .noEntry then copyTo fuel entry source target false
                else fault "cannot stat " target e
            | .ok old =>
                if ← Step.isSameFile source target then
                  if c.hardLinks then return 0
                  else
                    Step.complain (NameQuoted.always source ++ raw " and " ++ NameQuoted.always target ++
                      raw " are the same file")
                    return 1
                else if entry.isDirectory && !old.isDirectory then
                  Step.complain (raw "cannot overwrite non-directory " ++ NameQuoted.always target ++
                    raw " with directory " ++ NameQuoted.always source)
                  return 1
                else if !entry.isDirectory && old.isDirectory then
                  Step.complain (raw "cannot overwrite directory " ++ NameQuoted.always target ++
                    raw " with non-directory")
                  return 1
                else if old.isDirectory then copyTo fuel entry source target true
                else if !(← mayReplace c source target) then return 0
                else
                  match c.backup with
                  | none => copyTo fuel entry source target true
                  | some ending =>
                      match ← Step.change fun fs cwd =>
                          fs.rename cwd target.path (target ++ ending).path with
                      | .ok () => copyTo fuel entry source target false
                      | .error e => fault "cannot backup " target e
where
  /-- Copies an entry onto a name that may have it. -/
  copyTo (fuel : Nat) (entry : Entry) (source target : Raw) (exists' : Bool) :
      Step Nat := do
    let fault := fun (what : String) (name : Raw) (e : Errno) => do
      complainOf what name e
      return 1
    let told := if c.tells then Step.printLine (arrow source target) else pure ()
    let mask := (← get).mask
    let removeOld := fun (_ : Unit) => do
      if exists' then let _ ← Step.change fun fs cwd => fs.unlink cwd target.path
    match entry with
    | .directory mode =>
        match ← intoItself source with
        | some (top, wholeTarget) =>
          Step.complain (raw "cannot copy a directory, " ++ NameQuoted.always top ++
            raw ", into itself, " ++ NameQuoted.always wholeTarget)
          return 1
        | none =>
          let made ← if exists' then pure (.ok ())
            else Step.change fun fs cwd => fs.makeDirectory cwd target.path (mode ||| 0o700)
          match made with
          | .error e => fault "cannot create directory " target e
          | .ok () =>
              if !exists' then told
              let c ← if c.whole.isSome then pure c else started source target
              match ← Step.look fun fs cwd => do fs.list (← fs.locate cwd source.path) with
              | .error e => fault "cannot access " source e
              | .ok names =>
                  let status ← names.foldlM (fun status name => do
                    let n := Raw.ofString name
                    return max status
                      (← copyEntry c fuel false (within source n) (within target n))) 0
                  if c.preserves then copyAttributes source target mode
                  else if !exists' then
                    let _ ← setMode target (FileSystem.masked mask mode)
                  return status
    | .link text =>
        removeOld ()
        match ← Step.change fun fs cwd => fs.makeLink cwd text target.path with
        | .ok () => told; return 0
        | .error e => fault "cannot create symbolic link " target e
    | .pipe mode =>
        if c.recursive then
          removeOld ()
          match ← Step.change fun fs cwd => fs.makePipe cwd target.path (FileSystem.masked mask mode) with
          | .ok () => told; return 0
          | .error e => fault "cannot create fifo " target e
        else copyContent entry source target
    | _ =>
        if c.hardLinks then
          if exists' && c.forced then removeOld ()
          match ← Step.change fun fs cwd => fs.addName cwd source.path target.path with
          | .ok () => told; return 0
          | .error e => fault "cannot create hard link " target e
        else if c.softLinks then
          if exists' && c.forced then removeOld ()
          match ← Step.change fun fs cwd => fs.makeLink cwd (Raw.toString source) target.path with
          | .ok () => told; return 0
          | .error e => fault "cannot create symbolic link " target e
        else copyContent entry source target
  /-- Copies what a file holds. -/
  copyContent (entry : Entry) (source target : Raw) : Step Nat := do
    let mask := (← get).mask
    let dangles ← do
      match ← Step.linkStat target, ← Step.stat target with
      | .ok (.link _), .error _ => pure true
      | _, _ => pure false
    match ← Step.readFile source with
    | .error e =>
        complainOf "cannot open " source e
        return 1
    | .ok text =>
        if dangles then
          Step.complain (raw "not writing through dangling symlink " ++ NameQuoted.always target)
          return 1
        else
          let mode := entry.mode &&& 0o777
          match ← writeCopy c target text (FileSystem.masked mask mode) with
          | .error e =>
              complainOf "cannot create regular file " target e
              return 1
          | .ok () =>
              if c.tells then Step.printLine (arrow source target)
              if c.preserves then copyAttributes source target entry.mode
              return 0
  /-- The names of the directory that is copied as a whole and of its target, if the name leads to
  that target. -/
  intoItself (name : Raw) : Step (Option (Raw × Raw)) := do
    let p ← get
    match c.whole, p.common.files.locate p.cwd name.path with
    | some (top, target, place), .ok here => return if here = place then some (top, target) else none
    | _, _ => return none
  /-- Takes notice of the directory that is copied as a whole. -/
  started (source target : Raw) : Step Copying := do
    let p ← get
    match p.common.files.locate p.cwd target.path with
    | .ok place => return { c with whole := some (source, target, place) }
    | .error _ => return c

/-- The options of `cp` and `mv`. -/
def transferOptions (letters : String) : Options :=
  ⟨letters,
    [("archive", .none, "a"), ("backup", .optional, "b"), ("force", .none, "f"),
      ("interactive", .none, "i"), ("link", .none, "l"), ("dereference", .none, "L"),
      ("no-clobber", .none, "n"), ("no-dereference", .none, "P"), ("recursive", .none, "r"),
      ("symbolic-link", .none, "s"), ("suffix", .required, "S"),
      ("target-directory", .required, "t"), ("no-target-directory", .none, "T"),
      ("update", .optional, "u"), ("verbose", .none, "v"), ("preserve", .optional, "p"),
      ("strip-trailing-slashes", .none, "strip")], false⟩

/-- How options ask for copying to be done. -/
def copyingOf (a : Arguments) : Copying :=
  let recursive := a.hasAny ["r", "R", "a"]
  let follows := match a.lastOf ["L", "P", "H", "d", "a"] with
    | some "L" => some (true, true)
    | some "H" => some (true, false)
    | some _ => some (false, false)
    | none => none
  let (top, below) := follows.getD (if recursive then (false, false) else (true, true))
  { recursive := recursive
    followsTop := top
    followsBelow := below
    forced := a.has "f"
    keeps := a.lastOf ["n", "i", "f"] == some "n"
    asks := a.lastOf ["n", "i", "f"] == some "i"
    updates := a.has "u"
    tells := a.has "v"
    preserves := a.hasAny ["p", "a"]
    hardLinks := a.has "l"
    softLinks := a.has "s"
    backup := if a.hasAny ["b", "S"] then some ((a.value? "S").getD ['~']) else none }

/-- Copies files. -/
def cp (words : List Raw) : Step Nat := do
  let a ← arguments 1 (transferOptions "abdfHilLnpPrRsS:t:TuvxZ") words
  let d ← destination a
  let c := copyingOf a
  onEach d.sources fun source => copyEntry c 4096 true source (d.nameOf source)

/-! ## Moving -/

/-- Moves one file. -/
def moveEntry (c : Copying) (source target : Raw) : Step Nat := do
  let bare := Raw.dropEndWhile (· == '/') source
  let plain := if bare.isEmpty then source else bare
  match ← Step.linkStat source with
  | .error e => complainOf "cannot stat " source e; return 1
  | .ok entry =>
      match ← Step.linkStat target with
      | .error e =>
          if e = .noEntry ∨ e = .notDirectory ∧ target.getLast? = some '/' then
            go plain entry
          else complainOf "cannot stat " target e; return 1
      | .ok old =>
          let same ← isSame plain target
          if same then
            Step.complain (NameQuoted.always source ++ raw " and " ++ NameQuoted.always target ++
              raw " are the same file")
            return 1
          else if !old.isDirectory && entry.isDirectory then
            Step.complain (raw "cannot overwrite non-directory " ++ NameQuoted.always target ++
              raw " with directory " ++ NameQuoted.always source)
            return 1
          else if old.isDirectory && !entry.isDirectory then
            Step.complain (raw "cannot overwrite directory " ++ NameQuoted.always target ++
              raw " with non-directory")
            return 1
          else if !(← mayReplace c plain target) then return 0
          else
            match c.backup with
            | none => go plain entry
            | some ending =>
                let _ ← Step.change fun fs cwd =>
                  fs.rename cwd target.path (target ++ ending).path
                go plain entry
where
  /-- Whether two names are of one entry, without following links. -/
  isSame (a b : Raw) : Step Bool := do
    let isLink := fun (e : Except Errno Entry) => match e with
      | .ok (.link _) => true
      | _ => false
    if isLink (← Step.linkStat a) || isLink (← Step.linkStat b) then
      let p ← get
      let placeOf := fun (name : Raw) =>
        match p.common.files.reachParent p.cwd name.path with
        | .ok n => some (n.parent, n.last)
        | .error _ => none
      return placeOf a == placeOf b && (placeOf a).isSome
    else Step.isSameFile a b
  /-- Moves a name onto another. -/
  go (plain : Raw) (entry : Entry) : Step Nat := do
    match ← Step.change fun fs cwd => fs.rename cwd plain.path target.path with
    | .ok () =>
        if c.tells then Step.printLine (raw "renamed " ++ arrow source target)
        return 0
    | .error e =>
        if e = .invalidArgument ∧ entry.isDirectory then
          Step.complain (raw "cannot move " ++ NameQuoted.always source ++
            raw " to a subdirectory of itself, " ++ NameQuoted.always target)
        else
          Step.complain (raw "cannot move " ++ NameQuoted.always source ++ raw " to " ++
            NameQuoted.always target ++ raw ": " ++ raw e.strerror)
        return 1

/-- Moves files. -/
def mv (words : List Raw) : Step Nat := do
  let a ← arguments 1 (transferOptions "bfinS:t:TuvZ") words
  let d ← destination a
  let c := copyingOf a
  onEach d.sources fun source => moveEntry c source (d.nameOf source)

/-! ## Installing -/

/-- The options of `install`. -/
def installOptions : Options :=
  ⟨"bcCdDg:m:o:psS:t:Tv",
    [("directory", .none, "d"), ("mode", .required, "m"), ("target-directory", .required, "t"),
      ("no-target-directory", .none, "T"), ("verbose", .none, "v"),
      ("preserve-timestamps", .none, "p"), ("owner", .required, "o"), ("group", .required, "g")], false⟩

/-- Copies files with the bits of programs, or makes directories. -/
def install (words : List Raw) : Step Nat := do
  let a ← arguments 1 installOptions words
  let mode := (← modeOption a 0).getD 0o755
  let tell := fun (name : Raw) =>
    if a.has "v" then Step.printLine (raw "install: creating directory " ++ NameQuoted.always name)
    else pure ()
  if a.has "d" then
    if a.operands.isEmpty then misuse 1 (raw "missing file operand")
    else
      onEach a.operands fun name => do
        match ← makeDirectories tell name none with
        | .ok () => let _ ← setMode name mode; return 0
        | .error (path, e) => complainOf "cannot create directory " path e; return 1
  else
    if a.has "D" then
      let target := (a.value? "t").getD
        ((a.operands.getLastD []).reverse.dropWhile (· ≠ '/')).reverse
      if !target.isEmpty then
        let _ ← makeDirectories tell target none
    let d ← destination a
    let c := { copyingOf a with forced := true, preserves := false, recursive := false
                                keeps := false, asks := false, backup := none }
    onEach d.sources fun source => do
      let target := d.nameOf source
      match ← Step.stat source with
      | .error e => complainOf "cannot stat " source e; return 1
      | .ok entry =>
          if entry.isDirectory then
            Step.complain (raw "omitting directory " ++ NameQuoted.always source)
            return 1
          else
            let time ← Step.time? source
            if !(← Step.isSameFile source target) && !(← Step.isDirectory target) then
              let _ ← Step.change fun fs cwd => fs.unlink cwd target.path
            let status ← copyEntry c 1 true source target
            if status = 0 then
              let _ ← setMode target mode
              if a.has "p" then
                match time with
                | some t => setTime target t
                | none => pure ()
            return status

end Bootstrap.Utility
