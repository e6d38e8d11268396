import Bootstrap.Machine.Process
import Bootstrap.Signal

/-!
# Reading and writing

What a process does with its descriptors, and how it opens files by their names.  A
name may lead to a descriptor of the process itself: then it opens what the
descriptor leads to.
-/

namespace Bootstrap.Machine.Step

variable {α : Type}

/-- The stream that a descriptor leads to, and its index. -/
def stream? (descriptor : Nat) : Step (Option (Nat × Stream)) := do
  let p ← get
  match p.channels.lookup descriptor with
  | none => return none
  | some i => return p.common.streams[i]?.map fun s => (i, s)

/-- Changes a stream. -/
def setStream (index : Nat) (s : Stream) : Step Unit :=
  modifyCommon fun c => { c with streams := c.streams.setIfInBounds index s }

/-- Opens a stream and gives its index. -/
def newStream (s : Stream) : Step Nat := do
  let index := (← get).common.streams.size
  modifyCommon fun c => { c with streams := c.streams.push s }
  return index

/-- Lets a descriptor lead to a stream. -/
def connect (descriptor index : Nat) : Step Unit :=
  modify fun p => { p with
    channels := (descriptor, index) :: p.channels.filter (·.1 ≠ descriptor) }

/-- Closes a descriptor. -/
def disconnect (descriptor : Nat) : Step Unit :=
  modify fun p => { p with channels := p.channels.filter (·.1 ≠ descriptor) }

/-- How long files may get by what a process writes to them. -/
def fileLimit? (p : Process) : Option Nat :=
  ((p.limits.lookup 'f').bind Limit.soft).map (512 * ·)

/-- Writes to a stream. -/
def writeTo (index : Nat) (s : Stream) (text : Raw) : Step (Except Errno Unit) := do
  match s with
  | .file number offset appends reads writes =>
      if !writes then return .error .badDescriptor
      else
        let p ← get
        let start := if appends then ((p.common.files.file? number).map (·.content.length)).getD 0
          else offset
        let room := (fileLimit? p).map (· - start)
        let bytes := Raw.toBytes (match room with
          | some n => text.take n
          | none => text)
        if appends then
          modifyCommon fun c => { c with files := c.files.appendTo number bytes }
        else
          modifyCommon fun c => { c with
            files := c.files.writeAt number offset bytes
            streams := c.streams.setIfInBounds index
              (.file number (offset + bytes.length) appends reads writes) }
        if room.any (· < text.length) then
          if p.ignored.contains Signal.fileSize then return .error .fileTooLarge
          else throw (.killed Signal.fileSize)
        else return .ok ()
  | .collector pieces room =>
      if room < text.length then
        setStream index (.collector (text.take room :: pieces) 0)
        throw (.killed Signal.brokenPipe)
      else
        setStream index (.collector (text :: pieces) (room - text.length))
        return .ok ()
  | .device .full => return .error .noSpace
  | .device .terminal => return .error .inputOutput
  | .device _ => return .ok ()
  | .pipe place =>
      modifyCommon fun c => { c with
        pipes := (place, (c.pipes.lookup place).getD [] ++ text) :: c.pipes.filter (·.1 ≠ place) }
      return .ok ()
  | .source .. | .directory _ => return .error .badDescriptor

/-- Writes to a descriptor.  Nothing is always written. -/
def write (descriptor : Nat) (text : Raw) : Step (Except Errno Unit) := do
  if text.isEmpty then return .ok ()
  else
    match ← stream? descriptor with
    | none => return .error .badDescriptor
    | some (i, s) => writeTo i s text

/-- Writes to the standard output.  A failure is kept until the process ends. -/
def print (text : Raw) : Step Unit := do
  match ← write 1 text with
  | .ok () => pure ()
  | .error e => modify fun p => { p with outputFault := some e }

/-- Has something written to the standard output later, with what comes behind it. -/
def printLater (text : Raw) : Step Unit :=
  modify fun p => { p with unwritten := text :: p.unwritten }

/-- Writes what is still to be written. -/
def flush : Step Unit := do
  let pieces := (← get).unwritten
  if !pieces.isEmpty then
    modify fun p => { p with unwritten := [] }
    print pieces.reverse.flatten

/-- Has a line written to the standard output later. -/
def printLine (text : Raw) : Step Unit := printLater (text ++ ['\n'])

/-- Writes a line to the error stream. -/
def errorLine (text : Raw) : Step Unit := do
  let _ ← write 2 (text ++ ['\n'])

/-- Complains in the name of the process.  What is still to be written comes first. -/
def complain (text : Raw) : Step Unit := do
  flush
  errorLine ((← get).name ++ raw ": " ++ text)

/-- What is taken from a device that gives without end if it is not said how much. -/
def endless : Nat := 65536

/-- Takes notice that a text may go on. -/
def await : Step Unit := modifyCommon fun c => { c with waits := true }

/-- What is left to read from a stream; of a device that gives without end it is `most`. -/
def leftIn (s : Stream) (most : Nat := endless) : Step (Except Errno Raw) := do
  match s with
  | .file number offset _ reads _ =>
      if !reads then return .error .badDescriptor
      else
        match (← files).file? number with
        | some f => return .ok (Raw.ofBytes (f.content.drop offset))
        | none => return .ok []
  | .source rest goesOn =>
      if rest.isEmpty ∧ goesOn then await
      return .ok rest
  | .pipe place =>
      match (← get).common.pipes.lookup place with
      | some rest => return .ok rest
      | none => await; return .ok []
  | .device .null => return .ok []
  | .device .terminal => return .error .inputOutput
  | .device _ => return .ok (List.replicate most (Char.ofNat 0))
  | .directory _ => return .error .isDirectory
  | .collector .. => return .error .badDescriptor

/-- Takes what was read from a stream. -/
def advance (index : Nat) (s : Stream) (count : Nat) : Step Unit :=
  match s with
  | .file number offset appends reads writes =>
      setStream index (.file number (offset + count) appends reads writes)
  | .source rest goesOn => do
      if goesOn ∧ rest.length ≤ count then await
      setStream index (.source (rest.drop count) goesOn)
  | .pipe place =>
      modifyCommon fun c => { c with
        pipes := c.pipes.map fun (p, rest) => (p, if p = place then rest.drop count else rest) }
  | _ => pure ()

/-- What is left to read from a descriptor; from a device that gives without end it is `most`. -/
def ahead (descriptor : Nat) (most : Nat := endless) : Step (Except Errno Raw) := do
  match ← stream? descriptor with
  | none => return .error .badDescriptor
  | some (_, s) => leftIn s most

/-- Takes some of what is left to read from a descriptor. -/
def skip (descriptor count : Nat) : Step Unit := do
  match ← stream? descriptor with
  | none => pure ()
  | some (i, s) => advance i s count

/-- Reads a descriptor up. -/
def readAll (descriptor : Nat) : Step (Except Errno Raw) := do
  match ← ahead descriptor with
  | .ok text => skip descriptor text.length; return .ok text
  | .error e => return .error e

/-- Whether a descriptor leads to something in which one can go back. -/
def isSeekable (descriptor : Nat) : Step Bool := do
  match ← stream? descriptor with
  | some (_, .file ..) => return true
  | _ => return false

/-- The directory with the names of the descriptors. -/
def descriptorDirectory : Location := ["proc", "self", "fd"]

/-- The descriptor of the process itself that a path leads to. -/
def descriptorOf? (p : Path) : Step (Option Nat) := do
  let process ← get
  match process.common.files.reach process.cwd p with
  | .ok place =>
      if place.dropLast = descriptorDirectory then
        return (place.getLast?.map String.toList).bind Raw.digits?
      else return none
  | .error _ => return none

/-- Opens what an already open stream stands for once more. -/
def reopen (index : Nat) (s : Stream) (appends reads writes : Bool) : Step Nat :=
  match s with
  | .file number _ _ _ _ => newStream (.file number 0 appends reads writes)
  | _ => return index

/-- Opens a file by its name for reading and gives the index of its stream. -/
def openInput (name : Raw) : Step (Except Errno Nat) := do
  match ← descriptorOf? name.path with
  | some d =>
      match ← stream? d with
      | some (i, s) => return .ok (← reopen i s false true false)
      | none => return .error .noEntry
  | none =>
      match ← look fun fs cwd => fs.openToRead cwd name.path with
      | .error e => return .error e
      | .ok (.file number) => return .ok (← newStream (.file number 0 false true false))
      | .ok (.directory place) => return .ok (← newStream (.directory place))
      | .ok (.device d) => return .ok (← newStream (.device d))
      | .ok (.pipe place) =>
          modifyCommon fun c => { c with
            pipes := c.pipes.filter fun (p, rest) => p ≠ place || !rest.isEmpty }
          return .ok (← newStream (.pipe place))

/-- How a file is opened for writing. -/
structure Output where
  creates : Bool
  truncates : Bool
  appends : Bool
  /-- Whether it is read as well. -/
  reads : Bool

/-- From its start, with nothing left of what it held. -/
def Output.afresh : Output := ⟨true, true, false, false⟩

/-- At its end. -/
def Output.atEnd : Output := ⟨true, false, true, false⟩

/-- How much goes into a pipe before it is known whether someone reads that. -/
def firstRoom : Nat := 65536

/-- How much goes into a pipe before the process that writes it is stopped: no one reads a pipe
without end. -/
def pipeRoom : Nat := 8388608

/-- How much of an output is taken. -/
def captureRoom : Nat := 67108864

/-- Opens a file by its name for writing and gives the index of its stream. -/
def openOutput (name : Raw) (o : Output) : Step (Except Errno Nat) := do
  match ← descriptorOf? name.path with
  | some d =>
      match ← stream? d with
      | some (i, s) =>
          match s with
          | .file number .. =>
              if o.truncates then
                modifyCommon fun c => { c with
                  files := c.files.changeFile number fun f => { f with content := [] } }
          | _ => pure ()
          return .ok (← reopen i s o.appends o.reads true)
      | none => return .error .noEntry
  | none =>
      let p ← get
      match p.common.files.openToWrite p.cwd name.path ⟨o.creates, o.truncates, p.mask⟩ with
      | .error e => return .error e
      | .ok (files, opened) =>
          modifyCommon fun c => { c with files := files }
          match opened with
          | .file number => return .ok (← newStream (.file number 0 o.appends o.reads true))
          | .device d => return .ok (← newStream (.device d))
          | .pipe place =>
              modifyCommon fun c => { c with
                pipes := if (c.pipes.lookup place).isSome then c.pipes else (place, []) :: c.pipes }
              return .ok (← newStream (.pipe place))
          | .directory place => return .ok (← newStream (.directory place))

/-- Reads the file with a name; a device that gives without end gives `most`. -/
def readFile (name : Raw) (most : Nat := endless) : Step (Except Errno Raw) := do
  match ← openInput name with
  | .error e => return .error e
  | .ok i =>
      match (← get).common.streams[i]? with
      | none => return .error .badDescriptor
      | some s =>
          match ← leftIn s most with
          | .error e => return .error e
          | .ok text => advance i s text.length; return .ok text

/-- Writes the file with a name. -/
def writeFile (name : Raw) (o : Output) (text : Raw) : Step (Except Errno Unit) := do
  match ← openOutput name o with
  | .error e => return .error e
  | .ok i =>
      match (← get).common.streams[i]? with
      | none => return .error .badDescriptor
      | some s => if text.isEmpty then return .ok () else writeTo i s text

/-- What a stream stands for. -/
def entryOf (s : Stream) : Step Entry := do
  let fs ← files
  match s with
  | .file number .. =>
      match fs.file? number with
      | some f => return .file f.content f.mode
      | none => return .file [] 0
  | .collector .. | .source .. => return .pipe 0o600
  | .pipe place => return (fs.entryAt? place).getD (.pipe 0o600)
  | .device d => return .device d
  | .directory place => return (fs.entryAt? place).getD (.directory FileSystem.commonMode)

/-- The entry that a name leads to. -/
def stat (name : Raw) : Step (Except Errno Entry) := do
  match ← descriptorOf? name.path with
  | some d =>
      match ← stream? d with
      | some (_, s) => return .ok (← entryOf s)
      | none => return .error .noEntry
  | none => look fun fs cwd => fs.stat cwd name.path

/-- The entry that a name names; a link at its end is not followed. -/
def linkStat (name : Raw) : Step (Except Errno Entry) :=
  look fun fs cwd => fs.linkStat cwd name.path

/-- Whether a name leads to a directory. -/
def isDirectory (name : Raw) : Step Bool := do
  match ← stat name with
  | .ok e => return e.isDirectory
  | .error _ => return false

/-- Whether a name names anything. -/
def names (name : Raw) : Step Bool := do
  match ← linkStat name with
  | .ok _ => return true
  | .error _ => return false

/-- Sets the clock. -/
def setClock (now : Int) : Step Unit :=
  modifyCommon fun c => { c with files := { c.files with now := now } }

/-- Lets time pass, in nanoseconds.  A process whose time is over meanwhile goes no further. -/
def sleep (nanoseconds : Nat) : Step Unit := do
  let c := (← get).common
  let later := c.files.now + nanoseconds
  match c.deadline with
  | some deadline =>
      if deadline < later then
        setClock deadline
        throw .starved
      else setClock later
  | none => setClock later

end Bootstrap.Machine.Step
