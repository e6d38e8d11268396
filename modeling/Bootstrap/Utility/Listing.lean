import Bootstrap.Text.Pattern
import Bootstrap.Utility.Attribute
import Bootstrap.Utility.Order

/-!
# Listing directories

The operands that are no directories come first, then each directory with what is in it.
One name stands in a line, unless names are to stand behind each other; with much to
tell of each, the lines are columns.
-/

namespace Bootstrap.Utility

open Machine

/-- How a listing looks. -/
structure ListingStyle where
  /-- Whether all names are shown, and whether the directory itself and the one above are. -/
  showsHidden : Bool
  showsSelf : Bool
  skipsBackups : Bool
  directoriesAsFiles : Bool
  long : Bool
  showsOwner : Bool
  showsGroup : Bool
  numeric : Bool
  humanSizes : Bool
  recursive : Bool
  reversed : Bool
  /-- What names are sorted by: a key letter, or none. -/
  sortedBy : Option Char
  directoriesFirst : Bool
  classifies : Bool
  marksDirectories : Bool
  showsNumbers : Bool
  showsBlocks : Bool
  follows : Bool
  quotes : Bool
  escapes : Bool
  /-- What stands between names in one line. -/
  between : Option Raw
  ignored : List Raw

/-- The options of `ls`. -/
def listingOptions : Options :=
  ⟨"1aAbBcCdfFgGhHiI:klLmnNopqQrRsStT:uUvw:xXZ",
    [("all", .none, "a"), ("almost-all", .none, "A"), ("directory", .none, "d"),
      ("classify", .optional, "F"), ("human-readable", .none, "h"), ("inode", .none, "i"),
      ("ignore", .required, "I"), ("dereference", .none, "L"), ("numeric-uid-gid", .none, "n"),
      ("quote-name", .none, "Q"), ("reverse", .none, "r"), ("recursive", .none, "R"),
      ("size", .none, "s"), ("escape", .none, "b"), ("ignore-backups", .none, "B"),
      ("color", .optional, "color"), ("group-directories-first", .none, "first"),
      ("no-group", .none, "G"), ("literal", .none, "N"), ("full-time", .none, "full"),
      ("file-type", .none, "type"), ("sort", .required, "sort"), ("time", .required, "time")], false⟩

/-- The style that options ask for. -/
def listingStyle (a : Arguments) : ListingStyle :=
  let format := a.lastOf ["1", "l", "m", "C", "x", "n", "g", "o"]
  { showsHidden := a.hasAny ["a", "A", "f"]
    showsSelf := a.lastOf ["a", "A", "f"] == some "a" || a.lastOf ["a", "A", "f"] == some "f"
    skipsBackups := a.has "B"
    directoriesAsFiles := a.has "d"
    long := a.hasAny ["l", "n", "g", "o", "full"] && format != some "m" && format != some "C" && format != some "x"
    showsOwner := !a.has "g"
    showsGroup := !a.hasAny ["o", "G"]
    numeric := a.has "n"
    humanSizes := a.has "h"
    recursive := a.has "R"
    reversed := a.has "r"
    sortedBy := match a.lastOf ["S", "t", "U", "f", "v", "X"] with
      | some "S" => some 'S'
      | some "t" => some 't'
      | some "v" => some 'v'
      | some "X" => some 'X'
      | some _ => none
      | none => some 'n'
    directoriesFirst := a.has "first"
    classifies := a.has "F"
    marksDirectories := a.hasAny ["p", "type"]
    showsNumbers := a.has "i"
    showsBlocks := a.has "s"
    follows := a.has "L"
    quotes := a.has "Q"
    escapes := a.has "b"
    between := match format with
      | some "m" => some (raw ", ")
      | some "C" | some "x" => some (raw "  ")
      | _ => none
    ignored := a.values "I" }

/-- An item of a listing. -/
structure Listed where
  /-- The name as it is shown. -/
  name : Raw
  facts : FileFacts

namespace Listed

/-- The ending of a name, behind its last point. -/
def extension (name : Raw) : Raw :=
  if name.contains '.' then '.' :: (name.reverse.takeWhile (· ≠ '.')).reverse else []

/-- Whether one item comes in front of another or beside it. -/
def precedes (s : ListingStyle) (x y : Listed) : Bool :=
  let byName := compareBytes x.name y.name
  let o := match s.sortedBy with
    | some 'S' => (compare y.facts.entry.size x.facts.entry.size).then byName
    | some 't' => (compare y.facts.time x.facts.time).then byName
    | some 'v' => (compareVersions (x.name.length + y.name.length + 1) x.name y.name).then byName
    | some 'X' => (compareBytes (extension x.name) (extension y.name)).then byName
    | some _ => byName
    | none => .eq
  let o := if s.reversed then o.swap else o
  let first := fun (l : Listed) => if l.facts.entry.isDirectory then 0 else 1
  let o := if s.directoriesFirst then (compare (first x) (first y)).then o else o
  o != .gt

/-- What stands behind a name to say what it is. -/
def mark (s : ListingStyle) (l : Listed) : Raw :=
  match l.facts.entry with
  | .directory _ => if s.classifies || s.marksDirectories then ['/'] else []
  | .link _ => if s.classifies && !s.long then ['@'] else []
  | .pipe _ => if s.classifies then ['|'] else []
  | .file _ mode => if s.classifies && mode &&& 0o111 != 0 then ['*'] else []
  | .device _ => []

/-- A name as it is shown. -/
def shown (s : ListingStyle) (name : Raw) : Raw :=
  if s.quotes then '"' :: name.flatMap (fun c =>
    if c = '"' ∨ c = '\\' then ['\\', c] else if NameQuoted.isPrintable c then [c]
    else NameQuoted.escape c) ++ ['"']
  else if s.escapes then name.flatMap fun c =>
    if c = ' ' ∨ c = '\\' then ['\\', c] else if NameQuoted.isPrintable c then [c]
    else NameQuoted.escape c
  else name

/-- A size in units that people read. -/
def humanSize (n : Nat) : Raw :=
  let rec go : (units : List Char) → (scale : Nat) → Raw
    | [], scale => Raw.ofNat (n / scale)
    | u :: rest, scale =>
        let scale := scale * 1024
        if n < 1024 * scale ∨ rest.isEmpty then
          let tenths := (n * 10 + scale - 1) / scale
          if tenths < 100 then Raw.ofNat (tenths / 10) ++ '.' :: Raw.ofNat (tenths % 10) ++ [u]
          else Raw.ofNat ((n + scale - 1) / scale) ++ [u]
        else go rest scale
  if n < 1024 then Raw.ofNat n else go "KMGTPE".toList 1

/-- A time as it stands in a line: without its year if it is recent. -/
def timeText (now time : Int) : Raw :=
  let halfYear : Int := 15778476 * 1000000000
  if now - halfYear < time ∧ time ≤ now then Calendar.format time 32 (raw "%b %e %H:%M")
  else Calendar.format time 32 (raw "%b %e  %Y")

/-- The columns in front of a name, each with whether it is filled on its left. -/
def columns (s : ListingStyle) (now : Int) (l : Listed) : List (Raw × Bool) :=
  let e := l.facts.entry
  let owner := if s.numeric then ['0'] else raw "root"
  let size := if s.humanSizes then humanSize e.size else Raw.ofNat e.size
  (if s.showsNumbers then [(Raw.ofNat l.facts.number, true)] else []) ++
    (if s.showsBlocks then [(Raw.ofNat (blockCount e / 2), true)] else []) ++
    if !s.long then []
    else
      [(kindLetter e :: modeLetters e.mode, false), (Raw.ofNat l.facts.links, true)] ++
        (if s.showsOwner then [(owner, false)] else []) ++
        (if s.showsGroup then [(owner, false)] else []) ++
        [(size, true), (timeText now l.facts.time, false)]

/-- The lines of some items, with their columns under each other. -/
def rows (s : ListingStyle) (now : Int) (items : List Listed) : List Raw :=
  let table := items.map (columns s now)
  let width := fun (i : Nat) => table.foldl (fun n row => max n ((row.getD i ([], false)).1.length)) 0
  (items.zip table).map fun (l, row) =>
    let cells := row.zipIdx.map fun ((text, isRight), i) =>
      if isRight then Raw.padLeft (width i) text ' ' else Raw.padRight (width i) text ' '
    let target := match l.facts.entry with
      | .link text => if s.long then raw " -> " ++ Raw.ofString text else []
      | _ => []
    Raw.spaced (cells ++ [shown s l.name ++ mark s l]) ++ target

end Listed

/-- Prints items. -/
def printListed (s : ListingStyle) (items : List Listed) : Step Unit := do
  let now := (← Step.files).now
  let lines := Listed.rows s now items
  match s.between with
  | some text => if !lines.isEmpty then Step.printLine (Raw.joined text lines)
  | none => Step.printLater (Raw.ofLines lines)

/-- Whether a name is shown. -/
def isListed (s : ListingStyle) (name : Raw) : Bool :=
  (s.showsHidden || name.head? != some '.') &&
    !(s.skipsBackups && name.getLast? == some '~') &&
    !s.ignored.any fun p => Pattern.isMatch (Pattern.ofText p) name

/-- The items of a directory, and how many blocks they take. -/
def itemsOf (s : ListingStyle) (path : Raw) (names : List String) : Step (List Listed) := do
  let inner := (names.map Raw.ofString).filter (isListed s)
  let own := if s.showsSelf then [raw ".", raw ".."] else []
  let found ← (own ++ inner).mapM fun name => do
    match ← factsOf s.follows (within path name) with
    | .ok f => return [(⟨name, f⟩ : Listed)]
    | .error e => complainOf "cannot access " (within path name) e; return []
  let items := found.flatten
  return if s.sortedBy.isNone && !s.directoriesFirst then items
    else items.mergeSort (Listed.precedes s)

/-- Lists a directory, and those below it if that is asked for; gives the status, and whether anything
was printed.  `fuel` bounds the depth of directories. -/
def listDirectory (s : ListingStyle) (headed : Bool) :
    (fuel : Nat) → (isFirst atTop : Bool) → Raw → Step (Nat × Bool)
  | 0, _, _, _ => return (1, false)
  | fuel + 1, isFirst, atTop, path => do
      match ← Step.look fun fs cwd => do fs.list (← fs.locate cwd path.path) with
      | .error e =>
          complainOf "cannot open directory " path e
          return (if atTop then 2 else 1, false)
      | .ok names =>
          let items ← itemsOf s path names
          if !isFirst then Step.printLine []
          if headed then Step.printLine (Listed.shown s path ++ [':'])
          if s.long || s.showsBlocks then
            let blocks := items.foldl (fun n l => n + blockCount l.facts.entry) 0
            Step.printLine (raw "total " ++ Raw.ofNat (blocks / 2))
          printListed s items
          if !s.recursive then return (0, true)
          else
            let inner := items.filter fun l =>
              l.facts.entry.isDirectory && l.name != raw "." && l.name != raw ".."
            let status ← inner.foldlM (fun status l => do
              let (found, _) ← listDirectory s headed fuel false false (within path l.name)
              return max status found) 0
            return (status, true)

/-- Lists directories and files. -/
def ls (words : List Raw) : Step Nat := do
  let a ← arguments 2 listingOptions words
  let s := listingStyle a
  let operands := if a.operands.isEmpty then [raw "."] else a.operands
  let keepsLinks := s.long || s.classifies || s.directoriesAsFiles
  let (items, status) ← operands.foldlM (fun (items, status) name => do
    let plain ← factsOf false name
    let followed ← factsOf true name
    let isDirectory := match followed with
      | .ok f => f.entry.isDirectory
      | .error _ => false
    let chosen := if s.follows || (!keepsLinks && isDirectory) then followed else plain
    match chosen with
    | .ok f => return (items ++ [(⟨name, f⟩ : Listed)], status)
    | .error e => complainOf "cannot access " name e; return (items, 2)) (([] : List Listed), 0)
  let sorted := if s.sortedBy.isNone then items else items.mergeSort (Listed.precedes s)
  let (directories, files) := sorted.partition fun l =>
    l.facts.entry.isDirectory && !s.directoriesAsFiles
  printListed s files
  let headed := 1 < operands.length || s.recursive
  let (status, _) ← directories.foldlM (fun (status, isFirst) l => do
    let (found, printed) ← listDirectory s headed 4096 isFirst true l.name
    return (max status found, isFirst && !printed)) (status, files.isEmpty)
  return status

end Bootstrap.Utility
