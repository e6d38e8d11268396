import Bootstrap.FileSystem.Calls
import Bootstrap.Text.Pattern

/-!
# From expanded words to fields

An expanded word is a row of bits: characters that remember where they came from,
breaks between fields, and signs that a field is there even if it is empty.
Splitting cuts the row at separators that came from expansions; then a field that
acts as a pattern is replaced by the names that it matches.
-/

namespace Bootstrap.Shell

/-- A bit of an expanded word. -/
inductive Bit where
  /-- A character of the script. -/
  | literal (c : Char)
  | quoted (c : Char)
  /-- A character of an expansion. -/
  | expanded (c : Char)
  /-- A blank between fields that may be empty. -/
  | gap
  | fieldEnd
  /-- The field is there even if it is empty. -/
  | present
  deriving DecidableEq, Repr

namespace Bit

/-- The character of a bit, as it acts in a pattern. -/
def mark? : Bit → Option Mark
  | literal c | expanded c => some ⟨c, true⟩
  | quoted c => some ⟨c, false⟩
  | gap => some ⟨' ', false⟩
  | fieldEnd | present => none

/-- The characters of a row of bits as they act in a pattern. -/
def marks (bits : List Bit) : List Mark := bits.filterMap mark?

/-- The plain text of a row of bits. -/
def text (bits : List Bit) : Raw :=
  bits.filterMap fun
    | literal c | expanded c | quoted c => some c
    | gap | fieldEnd => some ' '
    | present => none

/-- The bits of a value. -/
def ofValue (quoted : Bool) (v : Raw) : List Bit :=
  v.map (if quoted then Bit.quoted else Bit.expanded)

end Bit

namespace Fields

/-- How a bit takes part in the cutting of fields. -/
inductive Role where
  | character (m : Mark)
  | presence
  | fieldEnd
  /-- A separator, and whether it is a blank: several of these part no more than one does. -/
  | separator (isBlank : Bool)

/-- The part that a bit takes. -/
def roleOf (separators : Raw) : Bit → Role
  | .literal c => .character ⟨c, true⟩
  | .quoted c => .character ⟨c, false⟩
  | .present => .presence
  | .fieldEnd => .fieldEnd
  | .gap => .separator true
  | .expanded c =>
      if separators.contains c then .separator ([' ', '\t', '\n'].contains c)
      else .character ⟨c, true⟩

/-- Cuts a row of bits; `current` is the present field in reverse order, if there is one, and
`behindBlank` says that a blank separator has just ended one. -/
def cut (separators : Raw) : (current : Option (List Mark)) → (behindBlank : Bool) → List Bit →
    List (List Mark)
  | current, _, [] => (current.map List.reverse).toList
  | current, behindBlank, bit :: rest =>
      match roleOf separators bit with
      | .character m => cut separators (some (m :: current.getD [])) false rest
      | .presence => cut separators (some (current.getD [])) false rest
      | .fieldEnd => (current.map List.reverse).toList ++ cut separators none false rest
      | .separator isBlank =>
          match current with
          | some field => field.reverse :: cut separators none isBlank rest
          | none =>
              if isBlank then cut separators none behindBlank rest
              else if behindBlank then cut separators none false rest
              else [] :: cut separators none false rest

/-- The text of a field. -/
def plain (field : List Mark) : Raw := field.map Mark.char

/-- Splits a field at slashes. -/
def stretches (field : List Mark) : List (List Mark) :=
  field.foldr (fun m acc =>
    if m.char = '/' then [] :: acc
    else
      match acc with
      | first :: rest => (m :: first) :: rest
      | [] => [[m]]) [[]]

/-- The names that a pattern can match in a directory. -/
def namesIn (fs : FileSystem) (cwd : Location) (base : Raw) : List Raw :=
  let directory : Path := if base.isEmpty then ⟨"."⟩ else base.path
  match fs.locate cwd directory with
  | .error _ => []
  | .ok place =>
      match fs.list place with
      | .error _ => []
      | .ok names => ['.'] :: ['.', '.'] :: names.map Raw.ofString

/-- The names that a row of stretches matches below a directory that is written as `base`. -/
def matchesBelow (fs : FileSystem) (cwd : Location) (base : Raw) :
    List (List Mark) → List Raw
  | [] => [base]
  | stretch :: rest =>
      if Pattern.isActive stretch then
        let p := Pattern.ofMarks stretch
        let hidden := stretch.head?.map Mark.char == some '.'
        let fitting := (namesIn fs cwd base).filter fun n =>
          (n.head? != some '.' || hidden) && Pattern.isMatch p n
        fitting.flatMap fun n =>
          if rest.isEmpty then [base ++ n] else matchesBelow fs cwd (base ++ n ++ ['/']) rest
      else
        let whole := base ++ plain stretch
        if rest.isEmpty then
          match fs.linkStat cwd (if whole.isEmpty then ⟨"."⟩ else whole.path) with
          | .ok _ => [whole]
          | .error _ => []
        else matchesBelow fs cwd (whole ++ ['/']) rest

/-- The names that a field matches in byte order, or the field itself if there are none. -/
def resolve (fs : FileSystem) (cwd : Location) (field : List Mark) : List Raw :=
  if Pattern.isActive field then
    let found := matchesBelow fs cwd [] (stretches field)
    if found.isEmpty then [plain field] else found.mergeSort fun a b => !b.precedes a
  else [plain field]

end Fields

end Bootstrap.Shell
