import Bootstrap.Machine.Descriptor

/-!
# Questions about files

The questions that scripts ask about files, by the letters that stand for them, and
the comparisons of two files.  Of a name that leads nowhere nothing is true.
-/

namespace Bootstrap.Machine.Step

/-- The letters of questions about one file. -/
def fileQuestions : List Char := "bcdefghkLOGprsSuwx".toList

/-- Whether what a question asks is true of an entry. -/
def isTrueOf (letter : Char) (e : Entry) : Bool :=
  match letter with
  | 'e' | 'O' | 'G' => true
  | 'f' => e.isFile
  | 'd' => e.isDirectory
  | 's' => e.size != 0
  | 'r' => e.allows 4
  | 'w' => e.allows 2
  | 'x' => e.allows 1
  | 'u' => e.mode &&& 0o4000 != 0
  | 'g' => e.mode &&& 0o2000 != 0
  | 'k' => e.mode &&& 0o1000 != 0
  | 'c' => match e with
      | .device _ => true
      | _ => false
  | 'p' => match e with
      | .pipe _ => true
      | _ => false
  | _ => false

/-- Whether what a question asks is true of the file with a name.  That it is a link is asked of the
name itself. -/
def fileTest (letter : Char) (name : Raw) : Step Bool := do
  if letter = 'h' ∨ letter = 'L' then
    match ← linkStat name with
    | .ok (.link _) => return true
    | _ => return false
  else
    match ← stat name with
    | .ok e => return isTrueOf letter e
    | .error _ => return false

/-- What tells a file from all others: its number, or else its place. -/
def identity? (name : Raw) : Step (Option (Location × Option Nat)) := do
  let p ← get
  match p.common.files.locate p.cwd name.path with
  | .error _ => return none
  | .ok place =>
      match p.common.files.nodeAt? place with
      | some (.file number) => return some ([], some number)
      | _ => return some (place, none)

/-- When the file with a name was changed last. -/
def time? (name : Raw) : Step (Option Int) := do
  let p ← get
  match p.common.files.locate p.cwd name.path with
  | .error _ => return none
  | .ok place => return p.common.files.timeAt? place

/-- Whether two names lead to one file. -/
def isSameFile (a b : Raw) : Step Bool := do
  match ← identity? a, ← identity? b with
  | some x, some y => return x == y
  | _, _ => return false

end Bootstrap.Machine.Step
