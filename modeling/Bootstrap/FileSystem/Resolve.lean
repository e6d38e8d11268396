import Bootstrap.Errno
import Bootstrap.FileSystem.Basic
import Bootstrap.Path

/-!
# What a path leads to

A path is walked step by step from the root or from the current directory.
Every step but the last must lead to something that exists, and whatever has a
further step must be a directory that its owner may search.  Links are followed
on the way, at most forty of them; a final slash is a further step that stays in
place, so it asks for a directory too.

Calls that name an entry and not what it leads to (`unlink`, `rename`, `mkdir`)
walk to the parent and keep the last component as it is written.
-/

namespace Bootstrap

/-- One step of a walk. -/
inductive PathStep where
  | stay
  | up
  | into (name : String)
  deriving DecidableEq, Repr

/-- The step that a stretch between slashes asks for. -/
def PathStep.ofStretch : List Char → Option PathStep
  | [] => none
  | ['.'] => some .stay
  | ['.', '.'] => some .up
  | stretch => some (.into (String.ofList stretch))

/-- The steps of a path; a final slash is one more step that stays in place. -/
def Path.steps (p : Path) : List PathStep :=
  p.stretches.filterMap PathStep.ofStretch ++ (if p.endsWithSlash then [.stay] else [])

namespace FileSystem

/-- The longest name of an entry, in bytes. -/
def nameLimit : Nat := 255

/-- A path must be shorter than this, in bytes. -/
def pathLimit : Nat := 4096

/-- How many links one walk follows. -/
def linkLimit : Nat := 40

/-- Walks without following a link itself: at a link it hands over to `onLink`, with the directory
that holds the link, the link's text and the steps that are left. -/
def descend (fs : FileSystem)
    (onLink : Location → Path → List PathStep → Except Errno Location) :
    Location → List PathStep → Except Errno Location
  | here, [] => .ok here
  | here, step :: rest =>
      match fs.nodeAt? here with
      | none => .error .noEntry
      | some (.directory mode _) =>
          if !(Entry.directory mode).allows 1 then .error .accessDenied
          else
            match step with
            | .stay => descend fs onLink here rest
            | .up => descend fs onLink here.dropLast rest
            | .into name =>
                if nameLimit < name.utf8ByteSize then .error .nameTooLong
                else
                  let next := here ++ [name]
                  match fs.nodeAt? next with
                  | none => if rest = [] then .ok next else .error .noEntry
                  | some (.link target) => onLink here ⟨target⟩ rest
                  | some _ => descend fs onLink next rest
      | some _ => .error .notDirectory

/-- Walks and follows links, as many as `budget` allows. -/
def walk (fs : FileSystem) : (budget : Nat) → Location → List PathStep → Except Errno Location
  | 0 => fs.descend fun _ _ _ => .error .linkLoop
  | budget + 1 => fs.descend fun here target rest =>
      if target.text.isEmpty then .error .noEntry
      else walk fs budget (if target.isAbsolute then [] else here) (target.steps ++ rest)

/-- Refuses the paths that no call accepts: empty ones and overlong ones. -/
def acceptable (p : Path) : Except Errno Unit :=
  if p.text.isEmpty then .error .noEntry
  else if pathLimit ≤ p.text.utf8ByteSize then .error .nameTooLong
  else .ok ()

/-- Where a walk along `p` begins. -/
def origin (cwd : Location) (p : Path) : Location := if p.isAbsolute then [] else cwd

/-- The place that `p` leads to through all links.  Only the last step may lead to nothing. -/
def reach (fs : FileSystem) (cwd : Location) (p : Path) : Except Errno Location := do
  acceptable p
  fs.walk linkLimit (origin cwd p) p.steps

/-- The existing place that `p` leads to. -/
def locate (fs : FileSystem) (cwd : Location) (p : Path) : Except Errno Location := do
  let place ← fs.reach cwd p
  if (fs.nodeAt? place).isSome then return place else throw .noEntry

/-- The entry that `p` leads to. -/
def stat (fs : FileSystem) (cwd : Location) (p : Path) : Except Errno Entry := do
  let place ← fs.reach cwd p
  match fs.entryAt? place with
  | some entry => return entry
  | none => throw .noEntry

/-- The last component of a path as it is written. -/
inductive Last where
  | root
  | stay
  | up
  | name (text : String)
  deriving DecidableEq, Repr

/-- A path split before its last component. -/
structure Named where
  /-- The directory that holds the last component. -/
  parent : Location
  last : Last
  /-- Whether a slash follows it. -/
  slash : Bool
  deriving DecidableEq, Repr

/-- The last step of a path as it is written. -/
def Last.ofStep : Option PathStep → Last
  | none => .root
  | some .stay => .stay
  | some .up => .up
  | some (.into n) => .name n

/-- Walks to the directory that holds the last component of `p`. -/
def reachParent (fs : FileSystem) (cwd : Location) (p : Path) : Except Errno Named := do
  acceptable p
  let steps := p.stretches.filterMap PathStep.ofStretch
  let parent ← fs.walk linkLimit (origin cwd p) steps.dropLast
  match fs.nodeAt? parent with
  | some (.directory mode _) =>
      if (Entry.directory mode).allows 1 then
        return ⟨parent, Last.ofStep steps.getLast?, p.endsWithSlash⟩
      else throw .accessDenied
  | some _ => throw .notDirectory
  | none => throw .noEntry

/-- Looks a name up in a directory without following it. -/
def lookupName (fs : FileSystem) (parent : Location) (name : String) :
    Except Errno (Option Node) :=
  if nameLimit < name.utf8ByteSize then .error .nameTooLong
  else .ok (fs.nodeAt? (parent ++ [name]))

/-- Refuses a directory in which its owner may not add or remove names. -/
def writable (fs : FileSystem) (place : Location) : Except Errno Unit :=
  match fs.nodeAt? place with
  | some (.directory mode _) =>
      if (Entry.directory mode).allows 2 && (Entry.directory mode).allows 1 then .ok ()
      else .error .accessDenied
  | _ => .ok ()

/-- The names in a directory that its owner may read. -/
def list (fs : FileSystem) (place : Location) : Except Errno (List String) :=
  match fs.nodeAt? place with
  | some (.directory mode _) =>
      if (Entry.directory mode).allows 4 then .ok (fs.children place) else .error .accessDenied
  | some _ => .error .notDirectory
  | none => .error .noEntry

/-- The entry that `p` names; a link at its end is not followed, unless a slash asks for it. -/
def linkStat (fs : FileSystem) (cwd : Location) (p : Path) : Except Errno Entry := do
  if p.endsWithSlash then fs.stat cwd p
  else
    let named ← fs.reachParent cwd p
    match named.last with
    | .name n =>
        match (← fs.lookupName named.parent n).bind fs.shown with
        | some entry => return entry
        | none => throw .noEntry
    | _ => fs.stat cwd p

/-- Whether `p` leads to a regular file. -/
def isFile (fs : FileSystem) (cwd : Location) (p : Path) : Bool :=
  match fs.stat cwd p with
  | .ok entry => entry.isFile
  | .error _ => false

/-- Whether `p` leads to a directory. -/
def isDirectory (fs : FileSystem) (cwd : Location) (p : Path) : Bool :=
  match fs.stat cwd p with
  | .ok entry => entry.isDirectory
  | .error _ => false

/-- The path text of a place. -/
def pathOf (place : Location) : Path :=
  if place = [] then ⟨"/"⟩ else ⟨"/" ++ String.intercalate "/" place⟩

/-- The path of the directory `cwd`, which must still exist. -/
def currentDirectory (fs : FileSystem) (cwd : Location) : Except Errno Path :=
  match fs.nodeAt? cwd with
  | some (.directory ..) => .ok (pathOf cwd)
  | _ => .error .noEntry

/-- The path of the place that `p` leads to, free of links and relative steps. -/
def canonicalize (fs : FileSystem) (cwd : Location) (p : Path) : Except Errno Path :=
  pathOf <$> fs.locate cwd p

end FileSystem

end Bootstrap
