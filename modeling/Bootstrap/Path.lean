/-!
# Path texts

A path is the text that names a file.  Nothing here looks at a file system: paths
are joined, cut and compared as texts.  Cutting follows one reading of the text,
`Path.components`: repeated slashes count once, a `.` counts only as the very
first component of a relative path, and `..` is a component of its own.
-/

namespace Bootstrap

/-- A path as it is written. -/
structure Path where
  text : String
  deriving DecidableEq, Repr, Inhabited

namespace Path

/-- The characters of the path. -/
def chars (p : Path) : List Char := p.text.toList

/-- The path with the given characters. -/
def ofChars (cs : List Char) : Path := ⟨String.ofList cs⟩

/-- Whether the path begins at the root. -/
def isAbsolute (p : Path) : Bool := p.chars.head? == some '/'

/-- Whether the path ends in a slash. -/
def endsWithSlash (p : Path) : Bool := p.chars.getLast? == some '/'

/-- `right` as seen from `left`: an absolute right side stands alone, otherwise a slash parts the
two unless the left is empty or ends in one. -/
def join (left right : Path) : Path :=
  if right.isAbsolute then right
  else if left.chars.isEmpty || left.endsWithSlash then ofChars (left.chars ++ right.chars)
  else ofChars (left.chars ++ '/' :: right.chars)

/-- Joins a plain text. -/
def push (left : Path) (right : String) : Path := left.join ⟨right⟩

/-- One step of a path. -/
inductive Component where
  | root
  | current
  | parent
  | name (text : List Char)
  deriving DecidableEq, Repr

/-- The component that a stretch between slashes stands for; nothing for an empty one or a `.`. -/
def Component.ofStretch : List Char → Option Component
  | [] => none
  | ['.'] => none
  | ['.', '.'] => some .parent
  | stretch => some (.name stretch)

/-- The text of a component. -/
def Component.text : Component → List Char
  | .root => ['/']
  | .current => ['.']
  | .parent => ['.', '.']
  | .name t => t

/-- The stretches between slashes. -/
def stretches (p : Path) : List (List Char) := p.chars.splitOn '/'

/-- The components of a path, in order. -/
def components (p : Path) : List Component :=
  let inner := p.stretches.filterMap Component.ofStretch
  if p.isAbsolute then .root :: inner
  else if p.stretches.head? == some ['.'] then .current :: inner
  else inner

/-- Whether two paths have the same components. -/
def sameComponents (p q : Path) : Bool := p.components == q.components

/-- Whether a stretch at the end of a path is part of no component. -/
def isSilent (stretch : List Char) : Bool := (Component.ofStretch stretch).isNone

/-- Drops silent stretches from the end, given in reverse order; the first stretch of the path
stays, since there a `.` counts. -/
def trimSilent : List (List Char) → List (List Char)
  | [] => []
  | [first] => [first]
  | last :: rest => if isSilent last then trimSilent rest else last :: rest

/-- The text of stretches in order; nothing but the root leaves its slash. -/
def ofStretches (absolute : Bool) (parts : List (List Char)) : Path :=
  match parts with
  | [[]] => if absolute then ⟨"/"⟩ else ⟨""⟩
  | _ => ofChars (List.intercalate ['/'] parts)

/-- The path without its last component.  The root and the empty path have no parent. -/
def parent? (p : Path) : Option Path :=
  match trimSilent p.stretches.reverse with
  | [] | [[]] => none
  | [_] => some ⟨""⟩
  | _ :: rest => some (ofStretches p.isAbsolute (trimSilent rest).reverse)

/-- The last component, when it is a name. -/
def fileName? (p : Path) : Option String :=
  match p.components.getLast? with
  | some (.name t) => some (String.ofList t)
  | _ => none

/-- Appends components to a path text. -/
def extend (p : Path) (cs : List Component) : Path :=
  cs.foldl (fun acc c => acc.join (ofChars c.text)) p

/-- The path made absolute from the directory `here`: silent stretches go, `..` stays, and so does
a final slash.  Exactly two leading slashes are kept. -/
def absoluteFrom (p here : Path) : Path :=
  let comps := match p.components with
    | .current :: rest => rest
    | cs => cs
  let base :=
    if p.isAbsolute then
      match p.stretches with
      | [] :: [] :: second :: rest =>
          if second.isEmpty && !rest.isEmpty then (⟨""⟩ : Path).extend comps
          else (⟨"//"⟩ : Path).extend comps.tail
      | _ => (⟨""⟩ : Path).extend comps
    else here.extend comps
  if p.endsWithSlash then base.join ⟨""⟩ else base

/-- Whether any character of the path is the null character, which no file name can hold. -/
def hasNull (p : Path) : Bool := p.chars.any fun c => c.toNat == 0

end Path

end Bootstrap
