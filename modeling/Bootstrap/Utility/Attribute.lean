import Bootstrap.Machine.FileTest
import Bootstrap.Utility.Calendar
import Bootstrap.Utility.Directory
import Bootstrap.Utility.Remove

/-!
# Utilities on what belongs to files

They set and tell the times, the permission bits and the sizes of files.
-/

namespace Bootstrap.Utility

open Machine

/-! ## Times -/

/-- The options of `touch`. -/
def touchOptions : Options :=
  ⟨"acd:fhmr:t:",
    [("date", .required, "d"), ("no-create", .none, "c"), ("no-dereference", .none, "h"),
      ("reference", .required, "r"), ("time", .required, "time")], false⟩

/-- Sets the times of files, and makes those that are missing. -/
def touch (words : List Raw) : Step Nat := do
  let a ← arguments 1 touchOptions words
  let now := (← Step.files).now
  let asked ← match a.value? "d", a.value? "t", a.value? "r" with
    | some text, _, _ =>
        match Calendar.instant? now text with
        | some t => pure t
        | none => wrong text
    | none, some text, _ =>
        match Calendar.stamp? now text with
        | some t => pure t
        | none => wrong text
    | none, none, some name =>
        match ← Step.time? name with
        | some t => pure t
        | none =>
            complainOf "failed to get attributes of " name .noEntry
            Step.exit 1
    | none, none, none => pure now
  if a.operands.isEmpty then misuse 1 (raw "missing file operand")
  else
    let setsChange := a.has "m" || !a.has "a"
    onEach a.operands fun name => do
      match ← Step.stat name with
      | .ok _ =>
          if setsChange then let _ ← Step.change fun fs cwd => fs.setTime cwd name.path asked
          return 0
      | .error e =>
          if name.getLast? = some '/' then
            complainOf "setting times of " name e
            return 1
          else if a.has "c" then return 0
          else if a.has "h" then
            complainOf "setting times of " name e
            return 1
          else
            match ← Step.openOutput name ⟨true, false, false, false⟩ with
            | .error e => complainOf "cannot touch " name e; return 1
            | .ok _ =>
                if setsChange then let _ ← Step.change fun fs cwd => fs.setTime cwd name.path asked
                return 0
where
  /-- Complains about a date, and ends the utility. -/
  wrong {α : Type} (text : Raw) : Step α := do
    Step.complain (raw "invalid date format " ++ NameQuoted.always text)
    Step.exit 1

/-- Prints a date. -/
def date (words : List Raw) : Step Nat := do
  let a ← arguments 1 ⟨"d:uRI::r:s:f:",
    [("date", .required, "d"), ("utc", .none, "u"), ("universal", .none, "u"),
      ("rfc-email", .none, "R"), ("iso-8601", .optional, "I"), ("reference", .required, "r"),
      ("rfc-3339", .required, "rfc")], false⟩ words
  let now := (← Step.files).now
  let instant ← match a.value? "d", a.value? "r" with
    | some text, _ =>
        match Calendar.instant? now text with
        | some t => pure t
        | none =>
            Step.complain (raw "invalid date " ++ NameQuoted.always text)
            Step.exit 1
    | none, some name =>
        match ← Step.time? name with
        | some t => pure t
        | none =>
            complainAbout name .noEntry
            Step.exit 1
    | none, none => pure now
  let usual :=
    if a.has "R" then raw "%a, %d %b %Y %H:%M:%S %z"
    else match a.value? "I", a.value? "rfc" with
      | some kind, _ =>
          if kind.isEmpty ∨ kind = raw "date" then raw "%Y-%m-%d"
          else if kind.head? = some 's' then raw "%Y-%m-%dT%H:%M:%S%:z"
          else raw "%Y-%m-%dT%H:%M%:z"
      | _, some kind =>
          if kind = raw "date" then raw "%Y-%m-%d"
          else if kind = raw "ns" then raw "%Y-%m-%d %H:%M:%S.%N%:z"
          else raw "%Y-%m-%d %H:%M:%S%:z"
      | none, none => raw "%a %b %e %H:%M:%S %Z %Y"
  match a.operands with
  | _ :: extra :: _ => extraOperand 1 extra
  | ['+' :: format] =>
      Step.printLine (Calendar.format instant (format.length + 1) format)
      return 0
  | [wrong] =>
      Step.complain (raw "invalid date " ++ NameQuoted.always wrong)
      return 1
  | [] =>
      Step.printLine (Calendar.format instant (usual.length + 1) usual)
      return 0

/-! ## Permission bits -/

/-- The letters of an entry's permission bits. -/
def modeLetters (mode : Nat) : Raw :=
  let triple := fun (shift : Nat) (special : Nat) (small capital : Char) =>
    let bits := mode / shift % 8
    let set := mode &&& special != 0
    [if bits &&& 4 != 0 then 'r' else '-', if bits &&& 2 != 0 then 'w' else '-',
      if bits &&& 1 != 0 then if set then small else 'x' else if set then capital else '-']
  triple 64 0o4000 's' 'S' ++ triple 8 0o2000 's' 'S' ++ triple 1 0o1000 't' 'T'

/-- The letter of what an entry is. -/
def kindLetter : Entry → Char
  | .file .. => '-'
  | .directory _ => 'd'
  | .link _ => 'l'
  | .device _ => 'c'
  | .pipe _ => 'p'

/-- The permission bits in octal digits, at least four. -/
def fourDigits (mode : Nat) : Raw := Raw.padLeft 4 (Nat.toDigits 8 mode) '0'

/-- Whether an argument is a change of bits that looks like options. -/
def isModeOption (word : Raw) : Bool :=
  match word with
  | '-' :: c :: rest => (c :: rest).all fun d => "rwxXstugoa,+=01234567".toList.contains d
  | _ => false

/-- How changing bits is done. -/
structure ModeSetting where
  change : ModeChange
  recursive : Bool
  quiet : Bool
  tellsAll : Bool
  tellsChanges : Bool

/-- Changes the bits of what a name stands for; `fuel` bounds the depth of directories. -/
def changeMode (m : ModeSetting) : (fuel : Nat) → (atTop : Bool) → Raw → Step Nat
  | 0, _, _ => return 1
  | fuel + 1, atTop, name => do
      match ← Step.linkStat name, ← Step.stat name with
      | .error e, _ =>
          if !m.quiet then complainOf "cannot access " name e
          return 1
      | .ok (.link _), .error _ =>
          if !atTop then return 0
          else
            if !m.quiet then
              Step.complain (raw "cannot operate on dangling symlink " ++ NameQuoted.always name)
            return 1
      | .ok (.link _), .ok entry => if atTop then change fuel entry name else return 0
      | .ok entry, _ => change fuel entry name
where
  /-- Changes the bits of an entry, and of what is below it. -/
  change (fuel : Nat) (entry : Entry) (name : Raw) : Step Nat := do
    let mask := (← get).mask
    let wanted := m.change.apply mask entry.isDirectory entry.mode
    let wanted := match m.change with
      | .absolute _ => if entry.isDirectory then wanted ||| (entry.mode &&& 0o6000) else wanted
      | .clauses _ => wanted
    let status ← match ← setMode name wanted with
      | .error e =>
          if !m.quiet then
            Step.complain (raw "changing permissions of " ++ NameQuoted.always name ++ raw ": " ++
              raw e.strerror)
          pure 1
      | .ok () => do
          let text := fun (mode : Nat) => fourDigits mode ++ raw " (" ++ modeLetters mode ++ [')']
          if wanted ≠ entry.mode ∧ (m.tellsAll ∨ m.tellsChanges) then
            Step.printLine (raw "mode of " ++ NameQuoted.always name ++ raw " changed from " ++
              text entry.mode ++ raw " to " ++ text wanted)
          else if m.tellsAll then
            Step.printLine (raw "mode of " ++ NameQuoted.always name ++ raw " retained as " ++
              text wanted)
          pure 0
    if m.recursive && entry.isDirectory then
      match ← Step.look fun fs cwd => do fs.list (← fs.locate cwd name.path) with
      | .error e =>
          if !m.quiet then
            Step.complain (raw "cannot read directory " ++ NameQuoted.always name ++ raw ": " ++
              raw e.strerror)
          return 1
      | .ok children =>
          children.foldlM (fun status child => do
            return max status (← changeMode m fuel false (within name (Raw.ofString child)))) status
    else return status

/-- The options of `chmod`. -/
def chmodOptions : Options :=
  ⟨"cfRv",
    [("changes", .none, "c"), ("silent", .none, "f"), ("quiet", .none, "f"),
      ("verbose", .none, "v"), ("recursive", .none, "R"), ("reference", .required, "reference")], false⟩

/-- Changes permission bits. -/
def chmod (words : List Raw) : Step Nat := do
  let front := words.takeWhile (· ≠ ['-', '-'])
  let behind := words.drop front.length
  let modes := front.filter isModeOption
  let a ← arguments 1 chmodOptions (front.filter (fun w => !isModeOption w) ++ behind)
  let told := a.lastOf ["v", "c"]
  let each := fun (change : ModeChange) (operands : List Raw) =>
    let setting : ModeSetting := ⟨change, a.has "R", a.has "f", told == some "v", told == some "c"⟩
    onEach operands (changeMode setting 4096 true)
  match a.value? "reference" with
  | some name =>
      match ← Step.stat name with
      | .ok entry => each (.absolute entry.mode) a.operands
      | .error e => complainOf "failed to get attributes of " name e; return 1
  | none =>
      let (text, operands) := if modes.isEmpty then (a.operands.headD [], a.operands.drop 1)
        else (Raw.joined [','] modes, a.operands)
      if modes.isEmpty && a.operands.isEmpty then missingOperand 1
      else if operands.isEmpty then
        misuse 1 (raw "missing operand after " ++ NameQuoted.always text)
      else
        match ModeChange.ofText? text with
        | some change => each change operands
        | none => misuse 1 (raw "invalid mode: " ++ NameQuoted.always text)

/-! ## Sizes -/

/-- What becomes of a size. -/
inductive SizeChange where
  | set (n : Nat)
  | grow (n : Nat)
  | shrink (n : Nat)
  | atMost (n : Nat)
  | atLeast (n : Nat)
  /-- Down to a multiple. -/
  | down (n : Nat)
  /-- Up to a multiple. -/
  | up (n : Nat)
  deriving DecidableEq, Repr

namespace SizeChange

/-- The change that a text writes. -/
def ofText? (text : Raw) : Option SizeChange :=
  match Raw.trim text with
  | '+' :: rest => (count? rest).map grow
  | '-' :: rest => (count? rest).map shrink
  | '<' :: rest => (count? rest).map atMost
  | '>' :: rest => (count? rest).map atLeast
  | '/' :: rest => (count? rest).map down
  | '%' :: rest => (count? rest).map up
  | rest => (count? rest).map set

/-- The new size. -/
def apply (old : Nat) : SizeChange → Nat
  | set n => n
  | grow n => old + n
  | shrink n => old - n
  | atMost n => min old n
  | atLeast n => max old n
  | down n => if n = 0 then old else old / n * n
  | up n => if n = 0 then old else (old + n - 1) / n * n

end SizeChange

/-- Sets the size of a file: what is missing is zeros. -/
def setSize (name : Raw) (creates : Bool) (size : Nat → Nat) : Step (Except Errno Unit) := do
  match ← Step.openOutput name ⟨creates, false, false, false⟩ with
  | .error e => return .error e
  | .ok i =>
      match (← get).common.streams[i]? with
      | some (.file number ..) =>
          Step.modifyCommon fun c => { c with
            files := c.files.changeFile number fun f =>
              let n := size f.content.length
              { f with
                content := f.content.take n ++ List.replicate (n - f.content.length) 0
                time := c.files.now } }
          return .ok ()
      | _ => return .error .invalidArgument

/-- Sets the sizes of files. -/
def truncate (words : List Raw) : Step Nat := do
  let a ← arguments 1 ⟨"cor:s:",
    [("no-create", .none, "c"), ("io-blocks", .none, "o"), ("reference", .required, "r"),
      ("size", .required, "s")], false⟩ words
  let change ← match a.value? "s" with
    | none => pure none
    | some text =>
        match SizeChange.ofText? text with
        | some c => pure (some c)
        | none =>
            Step.complain (raw "Invalid number: " ++ NameQuoted.always text)
            Step.exit 1
  match change, a.value? "r" with
  | none, none => misuse 1 (raw "you must specify either '--size' or '--reference'")
  | _, reference =>
      if a.operands.isEmpty then misuse 1 (raw "missing file operand")
      else
        let base ← match reference with
          | none => pure none
          | some name =>
              match ← Step.stat name with
              | .ok e => pure (some e.size)
              | .error e =>
                  complainOf "cannot stat " name e
                  Step.exit 1
        let size := fun (old : Nat) => match change with
          | some c => c.apply (base.getD old)
          | none => base.getD old
        onEach a.operands fun name => do
          match ← setSize name (!a.has "c") size with
          | .ok () => return 0
          | .error e =>
              if a.has "c" ∧ e = .noEntry then return 0
              else
                Step.complain (raw "cannot open " ++ NameQuoted.always name ++ raw " for writing: " ++
                  raw e.strerror)
                return 1

/-! ## Telling -/

/-- What is known of a file by its name. -/
structure FileFacts where
  name : Raw
  entry : Entry
  place : Location
  number : Nat
  links : Nat
  time : Int

/-- How many names a file has; a directory has one more for each directory in it. -/
def linkCount (fs : FileSystem) (place : Location) : Nat :=
  match fs.nodeAt? place with
  | some (.file number) => (fs.nodes.filter fun n => n.2 == .file number).length
  | some (.directory ..) =>
      2 + ((fs.children place).filter fun n =>
        ((fs.nodeAt? (place ++ [n])).map Node.isDirectory).getD false).length
  | _ => 1

/-- The number of a place: that of its file, or else one that no file has. -/
def placeNumber (fs : FileSystem) (place : Location) : Nat :=
  match fs.nodeAt? place with
  | some (.file number) => number
  | _ => 1000000 + (place.foldl (fun n s => s.toList.foldl (fun n c => n * 31 + c.toNat) (n + 7)) 1) % 1000000

/-- What is known of the file with a name. -/
def factsOf (follows : Bool) (name : Raw) : Step (Except Errno FileFacts) := do
  let found ← if follows then Step.stat name else Step.linkStat name
  match found with
  | .error e => return .error e
  | .ok entry =>
      let p ← get
      let fs := p.common.files
      let place := if follows then (fs.locate p.cwd name.path).toOption
        else match fs.reachParent p.cwd name.path with
          | .ok ⟨parent, .name n, false⟩ => some (parent ++ [n])
          | _ => (fs.locate p.cwd name.path).toOption
      let place := place.getD []
      return .ok ⟨name, entry, place, placeNumber fs place, linkCount fs place,
        (fs.timeAt? place).getD fs.now⟩

/-- How many blocks of 512 bytes an entry takes. -/
def blockCount (e : Entry) : Nat :=
  match e with
  | .file content _ => (content.length + 4095) / 4096 * 8
  | .directory _ => 8
  | _ => 0

/-- The number of an entry's kind and bits. -/
def rawMode (e : Entry) : Nat :=
  let kind := match e with
    | .file .. => 0o100000
    | .directory _ => 0o040000
    | .link _ => 0o120000
    | .device _ => 0o020000
    | .pipe _ => 0o010000
  kind + e.mode

/-- The text of a directive of `stat`. -/
def factText (f : FileFacts) (letter : Char) : Raw :=
  let dated := fun (t : Int) => Calendar.format t 64 (raw "%Y-%m-%d %H:%M:%S.%N %z")
  let seconds := fun (t : Int) => Raw.ofInt (t.fdiv 1000000000)
  match letter with
  | 'n' => f.name
  | 'N' =>
      NameQuoted.always f.name ++ match f.entry with
        | .link target => raw " -> " ++ NameQuoted.always (Raw.ofString target)
        | _ => []
  | 's' => Raw.ofNat f.entry.size
  | 'F' => kindName f.entry
  | 'a' => Nat.toDigits 8 f.entry.mode
  | 'A' => kindLetter f.entry :: modeLetters f.entry.mode
  | 'f' => Nat.toDigits 16 (rawMode f.entry)
  | 'h' => Raw.ofNat f.links
  | 'i' => Raw.ofNat f.number
  | 'u' | 'g' => ['0']
  | 'U' | 'G' => raw "root"
  | 'b' => Raw.ofNat (blockCount f.entry)
  | 'B' => raw "512"
  | 'o' => raw "4096"
  | 't' | 'T' | 'd' | 'D' => ['0']
  | 'm' => ['/']
  | 'X' | 'Y' | 'Z' => seconds f.time
  | 'W' => ['0']
  | 'w' => ['-']
  | 'x' | 'y' | 'z' => dated f.time
  | _ => ['?']

/-- The facts in a format; `fuel` bounds the number of directives. -/
def factFormat (f : FileFacts) (escapes : Bool) : (fuel : Nat) → Raw → Raw
  | 0, _ | _, [] => []
  | fuel + 1, '%' :: rest =>
      let flags := rest.takeWhile fun c => "-0+ #'".toList.contains c
      let rest := rest.drop flags.length
      let width := rest.takeWhile Char.isDigit
      let rest := rest.drop width.length
      match rest with
      | [] => ['%']
      | '%' :: more => '%' :: factFormat f escapes fuel more
      | c :: more =>
          let text := factText f c
          let n := (Raw.digits? width).getD 0
          let shown := if flags.contains '-' then Raw.padRight n text ' '
            else Raw.padLeft n text (if flags.contains '0' then '0' else ' ')
          shown ++ factFormat f escapes fuel more
  | fuel + 1, '\\' :: c :: rest =>
      if !escapes then '\\' :: factFormat f escapes fuel (c :: rest)
      else
        match c with
        | 'n' => '\n' :: factFormat f escapes fuel rest
        | 't' => '\t' :: factFormat f escapes fuel rest
        | '0' => Raw.byte 0 :: factFormat f escapes fuel rest
        | c => c :: factFormat f escapes fuel rest
  | fuel + 1, c :: rest => c :: factFormat f escapes fuel rest

/-- The format in which `stat` tells everything. -/
def wholeFormat : Raw :=
  raw "  File: %N\n  Size: %-10s\tBlocks: %-10b IO Block: %-6o %F\nDevice: 0,0\tInode: %-11i Links: %h\nAccess: (%04a/%A)  Uid: (%5u/%8U)   Gid: (%5g/%8G)\nAccess: %x\nModify: %y\nChange: %z\n Birth: %w\n"

/-- Tells what is known of files. -/
def stat (words : List Raw) : Step Nat := do
  let a ← arguments 1 ⟨"c:fLt",
    [("format", .required, "c"), ("printf", .required, "printf"), ("dereference", .none, "L"),
      ("file-system", .none, "f"), ("terse", .none, "t")], false⟩ words
  if a.operands.isEmpty then missingOperand 1
  else
    let format := match a.lastOf ["c", "printf"] with
      | some "c" => (a.value? "c").getD [] ++ ['\n']
      | some _ => (a.value? "printf").getD []
      | none => if a.has "t" then raw "%n %s %b %f %u %g %D %i %h %t %T %X %Y %Z %W %o\n" else wholeFormat
    let escapes := a.lastOf ["c", "printf"] == some "printf"
    onEach a.operands fun name => do
      match ← factsOf (a.has "L") name with
      | .ok f => Step.printLater (factFormat f escapes (format.length + 1) format); return 0
      | .error e => complainOf "cannot statx " name e; return 1

end Bootstrap.Utility
