import Bootstrap.Bytes

/-!
# File systems

A file system maps places to nodes.  A place is the list of names on the way
down from the root, so nothing about a place depends on links; what a path text
means is the subject of `Bootstrap.FileSystem.Resolve`.  The root itself is
always a directory.

A regular file has a number, and what it holds is kept under that number.  So a
file may have several names, and one that lost its last name is still there for
whoever has it open.

`entryAt?` is the view: what one sees at a place.  Every change of a name below
is described by what it does to the view.
-/

namespace Bootstrap

/-- A place in the directory tree: the names on the way down from the root. -/
abbrev Location := List String

/-- Whether a place comes in front of another or is the same.  The names are compared one by one
in byte order, so a directory comes in front of what it holds. -/
def Location.precedes : Location → Location → Bool
  | [], _ => true
  | _ :: _, [] => false
  | x :: xs, y :: ys => x < y || (x == y && precedes xs ys)

/-- A device that takes or gives bytes. -/
inductive Device where
  /-- It takes everything and gives nothing. -/
  | null
  /-- It takes everything and gives zero bytes without end. -/
  | zero
  /-- It takes nothing for want of room and gives zero bytes without end. -/
  | full
  /-- It gives bytes that nobody can foretell. -/
  | random
  /-- The terminal of the process, of which there is none. -/
  | terminal
  deriving DecidableEq, Repr

/-- What one sees at a place. -/
inductive Entry where
  /-- A regular file with its permission bits. -/
  | file (content : Bytes) (mode : Nat)
  | directory (mode : Nat)
  /-- A symbolic link with the text it holds. -/
  | link (target : String)
  | device (d : Device)
  /-- A pipe with a name. -/
  | pipe (mode : Nat)
  deriving DecidableEq, Repr

namespace Entry

/-- Whether the entry is a regular file. -/
def isFile : Entry → Bool
  | file .. => true
  | _ => false

/-- Whether the entry is a directory. -/
def isDirectory : Entry → Bool
  | directory _ => true
  | _ => false

/-- The number of bytes reported for the entry.  Directories report one block. -/
def size : Entry → Nat
  | file content _ => content.length
  | directory _ => 4096
  | link target => target.utf8ByteSize
  | device _ | pipe _ => 0

/-- The permission bits.  Links have all bits, devices may be read and written by all. -/
def mode : Entry → Nat
  | file _ mode | directory mode | pipe mode => mode
  | link _ => 0o777
  | device _ => 0o666

/-- Whether the owner's bit `bit` is set: four to read, two to write, one to execute or to search.
The program owns everything, and an owner is bound by these bits. -/
def allows (bit : Nat) (e : Entry) : Bool := e.mode &&& (bit * 0o100) != 0

/-- Whether the entry is a file that may be executed. -/
def isExecutable (e : Entry) : Bool := e.isFile && e.allows 1

end Entry

/-- A regular file. -/
structure File where
  content : Bytes
  mode : Nat
  /-- When it was changed last, in nanoseconds. -/
  time : Int
  deriving DecidableEq, Repr

/-- What stands at a place. -/
inductive Node where
  /-- The regular file with this number. -/
  | file (number : Nat)
  /-- A directory with its permission bits and the time of its last change. -/
  | directory (mode : Nat) (time : Int)
  | link (target : String)
  | device (d : Device)
  | pipe (mode : Nat)
  deriving DecidableEq, Repr

namespace Node

/-- The number of the file that a node stands for. -/
def number : Node → Nat
  | file n => n
  | _ => 0

/-- Whether the node is a regular file. -/
def isFile : Node → Bool
  | file _ => true
  | _ => false

/-- Whether the node is a directory. -/
def isDirectory : Node → Bool
  | directory .. => true
  | _ => false

end Node

/-- A directory tree and the files in it. -/
structure FileSystem where
  nodes : List (Location × Node)
  /-- Files by number; of two with one number the first counts. -/
  files : List (Nat × File)
  /-- What the clock shows, in nanoseconds. -/
  now : Int
  deriving Repr

namespace FileSystem

/-- Nothing but the root. -/
def empty : FileSystem := ⟨[], [], 0⟩

/-- The permission bits of the directories that everyone may enter and their owner may change. -/
def commonMode : Nat := 0o755

/-- The root. -/
def root : Node := .directory commonMode 0

/-- What stands at a place. -/
def nodeAt? (fs : FileSystem) (place : Location) : Option Node :=
  if place = [] then some root else fs.nodes.lookup place

/-- The file with a number. -/
def file? (fs : FileSystem) (number : Nat) : Option File := fs.files.lookup number

/-- What one sees of a node. -/
def shown (fs : FileSystem) : Node → Option Entry
  | .file n => (fs.file? n).map fun f => .file f.content f.mode
  | .directory mode _ => some (.directory mode)
  | .link target => some (.link target)
  | .device d => some (.device d)
  | .pipe mode => some (.pipe mode)

/-- What one sees at a place. -/
def entryAt? (fs : FileSystem) (place : Location) : Option Entry :=
  (fs.nodeAt? place).bind fs.shown

/-- The tree without the name at one place. -/
def erase (fs : FileSystem) (place : Location) : FileSystem :=
  { fs with nodes := fs.nodes.filter fun (other, _) => other ≠ place }

/-- The tree with `node` at one place. -/
def putNode (fs : FileSystem) (place : Location) (node : Node) : FileSystem :=
  { fs with nodes := (place, node) :: (fs.erase place).nodes }

/-- A number that no file has, and no name stands for. -/
def freshNumber (fs : FileSystem) : Nat :=
  fs.nodes.foldl (fun n x => max n (x.2.number + 1))
    (fs.files.foldl (fun n x => max n (x.1 + 1)) 0)

/-- The tree with a new file that has no name. -/
def addFile (fs : FileSystem) (content : Bytes) (mode : Nat) : FileSystem :=
  { fs with files := (fs.freshNumber, ⟨content, mode, fs.now⟩) :: fs.files }

/-- The tree with `entry` at one place; a file there is a new one. -/
def put (fs : FileSystem) (place : Location) : Entry → FileSystem
  | .file content mode => (fs.addFile content mode).putNode place (.file fs.freshNumber)
  | .directory mode => fs.putNode place (.directory mode fs.now)
  | .link target => fs.putNode place (.link target)
  | .device d => fs.putNode place (.device d)
  | .pipe mode => fs.putNode place (.pipe mode)

/-- The tree with one file changed, under all its names. -/
def changeFile (fs : FileSystem) (number : Nat) (change : File → File) : FileSystem :=
  { fs with files := fs.files.map fun (n, f) => (n, if n = number then change f else f) }

/-- The tree without a place and everything below it. -/
def prune (fs : FileSystem) (place : Location) : FileSystem :=
  { fs with nodes := fs.nodes.filter fun (other, _) => !place.isPrefixOf other }

/-- The tree with everything at and below `source` at `target` instead. -/
def graft (fs : FileSystem) (source target : Location) : FileSystem :=
  let moved := fs.nodes.filter fun (place, _) => source.isPrefixOf place
  { fs with nodes :=
      moved.map (fun (place, node) => (target ++ place.drop source.length, node)) ++
        ((fs.prune source).prune target).nodes }

/-- The names in a directory, in byte order. -/
def children (fs : FileSystem) (place : Location) : List String :=
  (fs.nodes.filterMap fun (other, _) =>
    if other ≠ [] ∧ other.dropLast = place then other.getLast? else none).mergeSort (· ≤ ·)

/-- Everything below a place: the names on the way down from it, with what one sees there. -/
def below (fs : FileSystem) (place : Location) : List (Location × Entry) :=
  fs.nodes.filterMap fun (other, node) =>
    if place.isPrefixOf other ∧ place ≠ other then
      (fs.shown node).map fun entry => (other.drop place.length, entry)
    else none

@[simp] theorem nodeAt?_root (fs : FileSystem) : fs.nodeAt? [] = some root := rfl

@[simp] theorem entryAt?_root (fs : FileSystem) :
    fs.entryAt? [] = some (.directory commonMode) := rfl

theorem lookup_filter_ne {β : Type} (entries : List (Location × β)) (place other : Location) :
    (entries.filter fun (p, _) => p ≠ place).lookup other =
      if other = place then none else entries.lookup other := by
  induction entries with
  | nil => simp
  | cons head rest ih =>
      obtain ⟨p, e⟩ := head
      have step : ((p, e) :: rest).lookup other = if other = p then some e else rest.lookup other := by
        by_cases ho : other = p
        · subst ho; simp
        · have hb : (other == p) = false := by simpa using ho
          simp [List.lookup_cons, hb, ho]
      by_cases hp : p = place
      · subst hp
        rw [step, List.filter_cons_of_neg (by simp), ih]
        by_cases ho : other = p <;> simp [ho]
      · rw [step, List.filter_cons_of_pos (by simpa using hp)]
        by_cases ho : other = p
        · subst ho; simp [hp]
        · have hb : (other == p) = false := by simpa using ho
          simp only [List.lookup_cons, hb, ho, if_false]
          exact ih

/-- Erasing takes the node of one place and of no other. -/
theorem nodeAt?_erase (fs : FileSystem) {place : Location} (h : place ≠ []) (other : Location) :
    (fs.erase place).nodeAt? other = if other = place then none else fs.nodeAt? other := by
  unfold nodeAt? erase
  by_cases hr : other = []
  · subst hr
    have hne : ([] : Location) ≠ place := fun e => h e.symm
    simp [hne]
  · simp only [hr, if_false]
    exact lookup_filter_ne fs.nodes place other

/-- Putting a node fills one place and changes no other. -/
theorem nodeAt?_putNode (fs : FileSystem) {place : Location} (h : place ≠ []) (node : Node)
    (other : Location) :
    (fs.putNode place node).nodeAt? other =
      if other = place then some node else fs.nodeAt? other := by
  have key := nodeAt?_erase fs h other
  unfold nodeAt? putNode at *
  by_cases hr : other = []
  · subst hr
    have hne : ([] : Location) ≠ place := fun e => h e.symm
    simp [hne]
  · by_cases ho : other = place
    · subst ho; simp [hr]
    · have hb : (other == place) = false := by simpa using ho
      simp only [hr, if_false, ho] at key ⊢
      simp only [List.lookup_cons, hb]
      exact key

/-- Erasing empties one place and no other. -/
theorem entryAt?_erase (fs : FileSystem) {place : Location} (h : place ≠ []) (other : Location) :
    (fs.erase place).entryAt? other = if other = place then none else fs.entryAt? other := by
  have hs : (fs.erase place).shown = fs.shown := rfl
  simp only [entryAt?, nodeAt?_erase fs h, hs]
  split <;> rfl

theorem le_foldl_max {α : Type} (f : α → Nat) (xs : List α) (start : Nat) :
    start ≤ xs.foldl (fun n x => max n (f x)) start := by
  induction xs generalizing start with
  | nil => exact Nat.le_refl _
  | cons x rest ih => exact Nat.le_trans (Nat.le_max_left _ _) (ih _)

theorem mem_le_foldl_max {α : Type} (f : α → Nat) {x : α} {xs : List α} (h : x ∈ xs)
    (start : Nat) : f x ≤ xs.foldl (fun n x => max n (f x)) start := by
  induction xs generalizing start with
  | nil => exact absurd h (by simp)
  | cons y rest ih =>
      rcases List.mem_cons.1 h with rfl | h
      · exact Nat.le_trans (Nat.le_max_right start _) (le_foldl_max f rest _)
      · exact ih h _

theorem mem_of_lookup {α β : Type} [BEq α] [LawfulBEq α] {key : α} {value : β} :
    {entries : List (α × β)} → entries.lookup key = some value → (key, value) ∈ entries
  | [], h => by simp at h
  | (k, v) :: rest, h => by
      cases hk : key == k with
      | true =>
          simp only [List.lookup_cons, hk, Option.some.injEq] at h
          simp [h, eq_of_beq hk]
      | false =>
          simp only [List.lookup_cons, hk] at h
          exact List.mem_cons_of_mem _ (mem_of_lookup h)

/-- No node of the tree has the fresh number. -/
theorem number_lt_freshNumber (fs : FileSystem) {place : Location} {node : Node}
    (hp : place ≠ []) (h : fs.nodeAt? place = some node) : node.number < fs.freshNumber := by
  unfold nodeAt? at h
  rw [if_neg hp] at h
  exact mem_le_foldl_max (fun x : Location × Node => x.2.number + 1) (mem_of_lookup h) _

/-- A new file changes nothing of what one sees of the nodes that are there. -/
theorem shown_addFile (fs : FileSystem) (content : Bytes) (mode : Nat) {node : Node}
    (h : node.number < fs.freshNumber) : (fs.addFile content mode).shown node = fs.shown node := by
  cases node with
  | file n =>
      have hb : (n == fs.freshNumber) = false := by
        have : n ≠ fs.freshNumber := Nat.ne_of_lt h
        simpa using this
      simp [shown, file?, addFile, List.lookup_cons, hb]
  | _ => rfl

/-- Putting an entry fills one place and changes no other. -/
theorem entryAt?_put (fs : FileSystem) {place : Location} (h : place ≠ []) (entry : Entry)
    (other : Location) :
    (fs.put place entry).entryAt? other = if other = place then some entry else fs.entryAt? other := by
  have plain : ∀ node : Node, fs.shown node = some entry →
      (fs.putNode place node).entryAt? other =
        if other = place then some entry else fs.entryAt? other := by
    intro node hn
    have hs : (fs.putNode place node).shown = fs.shown := rfl
    simp only [entryAt?, nodeAt?_putNode fs h, hs]
    split
    · simpa using hn
    · rfl
  cases entry with
  | file content mode =>
      simp only [put, entryAt?, nodeAt?_putNode _ h]
      have hs : ((fs.addFile content mode).putNode place (.file fs.freshNumber)).shown =
          (fs.addFile content mode).shown := rfl
      have hn : (fs.addFile content mode).nodeAt? other = fs.nodeAt? other := rfl
      rw [hs, hn]
      by_cases ho : other = place
      · simp [ho, shown, file?, addFile]
      · simp only [ho, if_false]
        by_cases hr : other = []
        · subst hr; rfl
        · cases hnode : fs.nodeAt? other with
          | none => rfl
          | some node =>
              exact shown_addFile fs content mode (number_lt_freshNumber fs hr hnode)
  | directory mode => exact plain _ rfl
  | link target => exact plain _ rfl
  | device d => exact plain _ rfl
  | pipe mode => exact plain _ rfl

/-- Changing a file is seen wherever it has a name, and nowhere else. -/
theorem file?_changeFile (fs : FileSystem) (number other : Nat) (change : File → File) :
    (fs.changeFile number change).file? other =
      (fs.file? other).map fun f => if other = number then change f else f := by
  unfold file? changeFile
  induction fs.files with
  | nil => rfl
  | cons head rest ih =>
      obtain ⟨n, f⟩ := head
      by_cases hn : other = n
      · subst hn; simp
      · have hb : (other == n) = false := by simpa using hn
        simpa [List.lookup_cons, hb] using ih

end FileSystem

end Bootstrap
