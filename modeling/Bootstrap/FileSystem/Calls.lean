import Bootstrap.FileSystem.Resolve

/-!
# Calls on a file system

Each call either fails with an error number and changes nothing, or gives the
changed tree.  The order of the tests inside a call decides which of two faults
is reported.

An open file is known by what it is, not by its name: a file by its number.  So a
file that is renamed or loses its name while it is open is still the one that is
written.
-/

namespace Bootstrap.FileSystem

/-- The bits that a mask leaves of a mode. -/
def masked (mask mode : Nat) : Nat := mode - (mode &&& mask)

/-- The mask that is usual: group and others may not write. -/
def usualMask : Nat := 0o022

/-- What an open file is. -/
inductive Opened where
  | file (number : Nat)
  | directory (place : Location)
  | device (d : Device)
  | pipe (place : Location)
  deriving DecidableEq, Repr

/-- The content of the file that `p` leads to.  A directory opens, and fails when it is read; a
device is taken to have nothing to give. -/
def read (fs : FileSystem) (cwd : Location) (p : Path) : Except Errno Bytes := do
  let entry ← fs.stat cwd p
  if !entry.allows 4 then throw .accessDenied
  else
    match entry with
    | .file content _ => return content
    | .directory _ => throw .isDirectory
    | .link _ => throw .linkLoop
    | .device .terminal => throw .noDevice
    | .device _ | .pipe _ => return []

/-- Opens what `p` leads to for reading. -/
def openToRead (fs : FileSystem) (cwd : Location) (p : Path) : Except Errno Opened := do
  let place ← fs.locate cwd p
  match fs.entryAt? place with
  | none => throw .noEntry
  | some entry =>
      if !entry.allows 4 then throw .accessDenied
      else
        match fs.nodeAt? place with
        | some (.file number) => return .file number
        | some (.directory ..) => return .directory place
        | some (.device .terminal) => throw .noDevice
        | some (.device d) => return .device d
        | some (.pipe _) => return .pipe place
        | _ => throw .linkLoop

/-- How a file is opened for writing. -/
structure Writing where
  /-- Whether a file that is not there is made. -/
  creates : Bool
  /-- Whether what the file holds is dropped. -/
  truncates : Bool
  /-- What new files may not be. -/
  mask : Nat

/-- Opens what `p` leads to for writing. -/
def openToWrite (fs : FileSystem) (cwd : Location) (p : Path) (w : Writing) :
    Except Errno (FileSystem × Opened) := do
  let named ← fs.reachParent cwd p
  if named.slash && w.creates then throw .isDirectory
  else
    let place ← fs.reach cwd p
    match fs.entryAt? place with
    | some entry =>
        if entry.isDirectory then throw .isDirectory
        else if !entry.allows 2 then throw .accessDenied
        else
          match fs.nodeAt? place with
          | some (.file number) =>
              let emptied := fs.changeFile number fun f => { f with content := [], time := fs.now }
              return (if w.truncates then emptied else fs, .file number)
          | some (.device .terminal) => throw .noDevice
          | some (.device d) => return (fs, .device d)
          | some (.pipe _) => return (fs, .pipe place)
          | _ => throw .linkLoop
    | none =>
        if w.creates then
          fs.writable place.dropLast
          return (fs.put place (.file [] (masked w.mask 0o666)), .file fs.freshNumber)
        else throw .noEntry

/-- Writes into an open file at an offset.  A gap in front of it is filled with zeros. -/
def writeAt (fs : FileSystem) (number offset : Nat) (bytes : Bytes) : FileSystem :=
  fs.changeFile number fun f =>
    let length := f.content.length
    let content :=
      if offset = length then f.content ++ bytes
      else if length < offset then f.content ++ List.replicate (offset - length) 0 ++ bytes
      else f.content.take offset ++ bytes ++ f.content.drop (offset + bytes.length)
    { f with content := content, time := fs.now }

/-- Writes behind what an open file holds. -/
def appendTo (fs : FileSystem) (number : Nat) (bytes : Bytes) : FileSystem :=
  fs.changeFile number fun f => { f with content := f.content ++ bytes, time := fs.now }

/-- Makes a directory. -/
def makeDirectory (fs : FileSystem) (cwd : Location) (p : Path) (mode : Nat) :
    Except Errno FileSystem := do
  let named ← fs.reachParent cwd p
  match named.last with
  | .name n =>
      match ← fs.lookupName named.parent n with
      | some _ => throw .fileExists
      | none =>
          fs.writable named.parent
          return fs.put (named.parent ++ [n]) (.directory mode)
  | _ => throw .fileExists

/-- Removes a name that is no directory's; a link is removed, not what it leads to. -/
def unlink (fs : FileSystem) (cwd : Location) (p : Path) : Except Errno FileSystem := do
  let named ← fs.reachParent cwd p
  match named.last with
  | .name n =>
      match ← fs.lookupName named.parent n with
      | none => throw .noEntry
      | some node =>
          if named.slash then throw (if node.isDirectory then .isDirectory else .notDirectory)
          else
            fs.writable named.parent
            if node.isDirectory then throw .isDirectory
            else return fs.erase (named.parent ++ [n])
  | _ => throw .isDirectory

/-- Removes an empty directory. -/
def removeDirectory (fs : FileSystem) (cwd : Location) (p : Path) : Except Errno FileSystem := do
  let named ← fs.reachParent cwd p
  match named.last with
  | .name n =>
      match ← fs.lookupName named.parent n with
      | none => throw .noEntry
      | some node =>
          fs.writable named.parent
          match node with
          | .directory .. =>
              let place := named.parent ++ [n]
              if (fs.children place).isEmpty then return fs.erase place else throw .notEmpty
          | _ => throw .notDirectory
  | .stay => throw .invalidArgument
  | .up => throw .notEmpty
  | .root => throw .busy

/-- Removes a name and, if it is a directory's, everything below it. -/
def removeTree (fs : FileSystem) (cwd : Location) (p : Path) : Except Errno FileSystem := do
  let named ← fs.reachParent cwd p
  match named.last with
  | .name n =>
      match ← fs.lookupName named.parent n with
      | none => throw .noEntry
      | some (.directory ..) => return fs.prune (named.parent ++ [n])
      | some _ =>
          if named.slash then throw .notDirectory
          else
            fs.writable named.parent
            return fs.erase (named.parent ++ [n])
  | .stay => throw .invalidArgument
  | .up => throw .notEmpty
  | .root => throw .busy

/-- Moves a name onto another, replacing what is there.  A link there is replaced, not followed; a
directory takes the place of an empty directory only, and nothing else takes a directory's.  Two
names of one file stay as they are. -/
def rename (fs : FileSystem) (cwd : Location) (source target : Path) :
    Except Errno FileSystem := do
  let old ← fs.reachParent cwd source
  let new ← fs.reachParent cwd target
  match old.last, new.last with
  | .name oldName, .name newName =>
      let oldPlace := old.parent ++ [oldName]
      let newPlace := new.parent ++ [newName]
      match ← fs.lookupName old.parent oldName with
      | none => throw .noEntry
      | some (.directory mode _) =>
          let there ← fs.lookupName new.parent newName
          if oldPlace.isPrefixOf new.parent then throw .invalidArgument
          else if newPlace.isPrefixOf old.parent then throw .notEmpty
          else if oldPlace = newPlace then return fs
          else
            fs.writable old.parent
            fs.writable new.parent
            if old.parent ≠ new.parent ∧ !(Entry.directory mode).allows 2 then throw .accessDenied
            else
              match there with
              | none => return fs.graft oldPlace newPlace
              | some (.directory ..) =>
                  if (fs.children newPlace).isEmpty then return fs.graft oldPlace newPlace
                  else throw .notEmpty
              | some _ => throw .notDirectory
      | some node =>
          let there ← fs.lookupName new.parent newName
          if old.slash || new.slash then throw .notDirectory
          else if newPlace.isPrefixOf old.parent then throw .notEmpty
          else if oldPlace = newPlace then return fs
          else if there = some node ∧ node.isFile then return fs
          else
            fs.writable old.parent
            fs.writable new.parent
            match there with
            | some (.directory ..) => throw .isDirectory
            | _ => return (fs.erase oldPlace).putNode newPlace node
  | _, _ => throw .busy

/-- Creates an empty file under a name that must be free. -/
def createNew (fs : FileSystem) (cwd : Location) (p : Path) (mode : Nat) :
    Except Errno FileSystem := do
  let named ← fs.reachParent cwd p
  match named.last with
  | .name n =>
      match ← fs.lookupName named.parent n with
      | some _ => throw .fileExists
      | none =>
          if named.slash then throw .isDirectory
          else
            fs.writable named.parent
            return fs.put (named.parent ++ [n]) (.file [] mode)
  | _ => throw .fileExists

/-- Sets the permission bits of what stands at a place. -/
def setModeAt (fs : FileSystem) (place : Location) (mode : Nat) : FileSystem :=
  match fs.nodeAt? place with
  | some (.file number) => fs.changeFile number fun f => { f with mode := mode }
  | some (.directory _ time) => fs.putNode place (.directory mode time)
  | some (.pipe _) => fs.putNode place (.pipe mode)
  | _ => fs

/-- Sets the permission bits of what `p` leads to. -/
def setMode (fs : FileSystem) (cwd : Location) (p : Path) (mode : Nat) :
    Except Errno FileSystem := do
  return fs.setModeAt (← fs.locate cwd p) mode

/-- When what stands at a place was changed last. -/
def timeAt? (fs : FileSystem) (place : Location) : Option Int :=
  match fs.nodeAt? place with
  | some (.file number) => (fs.file? number).map File.time
  | some (.directory _ time) => some time
  | _ => none

/-- Sets the time of the last change of what `p` leads to. -/
def setTime (fs : FileSystem) (cwd : Location) (p : Path) (time : Int) :
    Except Errno FileSystem := do
  let place ← fs.locate cwd p
  match fs.nodeAt? place with
  | some (.file number) => return fs.changeFile number fun f => { f with time := time }
  | some (.directory mode _) => return fs.putNode place (.directory mode time)
  | _ => return fs

/-- Puts something new under a name that must be free. -/
def makeNode (fs : FileSystem) (cwd : Location) (p : Path) (node : Node) :
    Except Errno FileSystem := do
  let named ← fs.reachParent cwd p
  match named.last with
  | .name n =>
      match ← fs.lookupName named.parent n with
      | some _ => throw .fileExists
      | none =>
          if named.slash then throw .noEntry
          else
            fs.writable named.parent
            return fs.putNode (named.parent ++ [n]) node
  | _ => throw .fileExists

/-- Makes a link that holds the text `target`. -/
def makeLink (fs : FileSystem) (cwd : Location) (target : String) (p : Path) :
    Except Errno FileSystem :=
  if target.isEmpty then .error .noEntry else fs.makeNode cwd p (.link target)

/-- Makes a pipe with a name. -/
def makePipe (fs : FileSystem) (cwd : Location) (p : Path) (mode : Nat) :
    Except Errno FileSystem :=
  fs.makeNode cwd p (.pipe mode)

/-- Gives what `source` names a second name. -/
def addName (fs : FileSystem) (cwd : Location) (source target : Path) :
    Except Errno FileSystem := do
  let old ← fs.reachParent cwd source
  let found ← match old.last with
    | .name n => fs.lookupName old.parent n
    | _ => pure (some root)
  match found with
  | none => throw .noEntry
  | some node =>
      if old.slash && !node.isDirectory then throw .notDirectory
      else
        let made ← fs.makeNode cwd target node
        if node.isDirectory then throw .notPermitted else return made

end Bootstrap.FileSystem
