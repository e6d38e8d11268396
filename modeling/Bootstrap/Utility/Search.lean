import Bootstrap.Text.Regex.Match
import Bootstrap.Utility.Remove

/-!
# Searching for lines

Lines in which one of some patterns is found are printed, counted, or named by their
files.  A line that is chosen may be printed with its neighbours, and of two stretches
of lines that do not touch the second stands behind a line of dashes.
-/

namespace Bootstrap.Utility

open Machine

/-- What a search looks for. -/
structure Search where
  patterns : List Matcher
  inverted : Bool
  /-- Whether a match has to be whole words, or the whole line. -/
  wholeWords : Bool
  wholeLines : Bool

namespace Search

/-- Whether a match stands between the edges of words. -/
def isWord (text : Array Char) (start stop : Nat) : Bool :=
  let at' := fun (i : Nat) => (text[i]?.map Regex.isWordChar).getD false
  !(0 < start && at' (start - 1)) && !at' stop

/-- The longest match of words that begins at a position or behind it; `count` bounds the positions
that are tried. -/
def wordFrom (m : Matcher) (text : Array Char) : (count : Nat) → (position : Nat) → Option (Nat × Nat)
  | 0, _ => none
  | count + 1, position =>
      let ways := (Regex.ways m.manner text m.body ⟨position, []⟩).filter fun w =>
        isWord text position w.position
      match Regex.farthest? ways with
      | some w => some (position, w.position)
      | none => wordFrom m text count (position + 1)

/-- The first match of a pattern from a position on. -/
def matchOf (s : Search) (m : Matcher) (text : Array Char) (position : Nat) : Option (Nat × Nat) :=
  if s.wholeLines then
    if position = 0 then (m.matchWhole? text).map fun f => (f.start, f.stop) else none
  else if s.wholeWords then wordFrom m text (text.size + 1 - position) position
  else (m.find? text position).map fun f => (f.start, f.stop)

/-- The first match of any pattern from a position on, and the longest of those that begin there. -/
def find? (s : Search) (text : Array Char) (position : Nat) : Option (Nat × Nat) :=
  (s.patterns.filterMap fun m => s.matchOf m text position).foldl (fun best found =>
    match best with
    | none => some found
    | some b => if found.1 < b.1 || (found.1 == b.1 && b.2 < found.2) then some found else some b) none

/-- Whether a line is chosen. -/
def chooses (s : Search) (line : Raw) : Bool := (s.find? line.toArray 0).isSome != s.inverted

/-- The stretches of a line that match, without empty ones; `count` bounds their number. -/
def stretches (s : Search) (text : Array Char) : (count : Nat) → (position : Nat) → List (Nat × Nat)
  | 0, _ => []
  | count + 1, position =>
      match s.find? text position with
      | none => []
      | some (start, stop) =>
          if start = stop then
            if text.size ≤ stop then [] else stretches s text count (stop + 1)
          else (start, stop) :: stretches s text count stop

end Search

/-- The options of `grep`. -/
def searchOptions : Options :=
  ⟨"EFGPivwxclLqsnHhoe:f:m:rRA:B:C:abzyUTZd:D:",
    [("extended-regexp", .none, "E"), ("fixed-strings", .none, "F"), ("basic-regexp", .none, "G"),
      ("perl-regexp", .none, "P"), ("ignore-case", .none, "i"), ("no-ignore-case", .none, "noignore"),
      ("invert-match", .none, "v"), ("word-regexp", .none, "w"), ("line-regexp", .none, "x"),
      ("count", .none, "c"), ("files-with-matches", .none, "l"), ("files-without-match", .none, "L"),
      ("quiet", .none, "q"), ("silent", .none, "q"), ("no-messages", .none, "s"),
      ("line-number", .none, "n"), ("with-filename", .none, "H"), ("no-filename", .none, "h"),
      ("only-matching", .none, "o"), ("regexp", .required, "e"), ("file", .required, "f"),
      ("max-count", .required, "m"), ("recursive", .none, "r"), ("dereference-recursive", .none, "R"),
      ("after-context", .required, "A"), ("before-context", .required, "B"),
      ("context", .required, "C"), ("text", .none, "a"), ("byte-offset", .none, "b"),
      ("null-data", .none, "z"), ("null", .none, "Z"), ("color", .optional, "color"),
      ("colour", .optional, "color"), ("include", .required, "include"),
      ("exclude", .required, "exclude"), ("exclude-dir", .required, "exclude-dir"),
      ("label", .required, "label"), ("line-buffered", .none, "buffered"),
      ("initial-tab", .none, "T"), ("binary-files", .required, "binary")], false⟩

/-- Points to the help of `grep`, and ends it. -/
def searchUsage {α : Type} : Step α := do
  Step.errorLine (raw "Usage: grep [OPTION]... PATTERNS [FILE]...")
  Step.errorLine (raw "Try 'grep --help' for more information.")
  Step.exit 2

/-- How what is found is printed. -/
structure FoundStyle where
  named : Bool
  numbered : Bool
  offsets : Bool
  onlyMatches : Bool
  before : Nat
  after : Nat
  hasContext : Bool
  ending : Char
  nameEnding : Option Char
  asText : Bool
  limit : Option Nat

/-- What stands in front of a line; chosen lines have colons behind the parts, others dashes. -/
def FoundStyle.label (s : FoundStyle) (mark : Char) (name : Raw) (number offset : Nat) : Raw :=
  (if s.named then name ++ [s.nameEnding.getD mark] else []) ++
    (if s.numbered then Raw.ofNat number ++ [mark] else []) ++
    (if s.offsets then Raw.ofNat offset ++ [mark] else [])

/-- How much is read from a pipe at once. -/
def searchBlock : Nat := 32768

/-- A line with its number, its offset, and whether it is chosen. -/
structure FoundLine where
  text : Raw
  number : Nat
  offset : Nat
  chosen : Bool

/-- The lines of a text, of which no more than a limit are chosen. -/
def foundLines (s : Search) (style : FoundStyle) (text : Raw) : List FoundLine :=
  let (lines, _, _, _) := (Raw.records style.ending text).foldl
    (fun ((done, number, offset, left) : List FoundLine × Nat × Nat × Option Nat) line =>
      let chosen := left != some 0 && s.chooses line
      (⟨line, number, offset, chosen⟩ :: done, number + 1, offset + line.length + 1,
        if chosen then left.map (· - 1) else left)) ([], 1, 0, style.limit)
  lines.reverse

/-- The text of what is found with its neighbours. -/
def foundText (s : Search) (style : FoundStyle) (name : Raw) (lines : List FoundLine) : Raw :=
  let table := lines.toArray
  let chosenAt := (lines.filter FoundLine.chosen).map fun l => l.number - 1
  let isShown := fun (i : Nat) => chosenAt.any fun c => c ≤ i + style.before && i ≤ c + style.after
  let limitAt := match style.limit, chosenAt.getLast? with
    | some n, some last => if n ≤ chosenAt.length then some (last + style.after) else none
    | _, _ => none
  let (pieces, _) := (List.range table.size).foldl (fun ((pieces, last) : List Raw × Option Nat) i =>
    match table[i]? with
    | none => (pieces, last)
    | some l =>
        if !isShown i || (limitAt.map (decide <| · < i)).getD false then (pieces, last)
        else
          let gap := match last with
            | some p => if style.hasContext && p + 1 < i then raw "--\n" else []
            | none => []
          let mark := if l.chosen then ':' else '-'
          let text := if !style.onlyMatches then
              style.label mark name l.number l.offset ++ l.text ++ [style.ending]
            else if s.inverted || !l.chosen then []
            else
              let subject := l.text.toArray
              (s.stretches subject (subject.size + 1) 0).flatMap fun (start, stop) =>
                style.label ':' name l.number (l.offset + start) ++
                  (subject.extract start stop).toList ++ [style.ending]
          (text :: gap :: pieces, some i)) ([], none)
  pieces.reverse.flatten

/-- The files below a directory, in order; `fuel` bounds the depth. -/
def filesBelow : (fuel : Nat) → Raw → Step (List Raw)
  | 0, _ => return []
  | fuel + 1, path => do
      match ← Step.look fun fs cwd => do fs.list (← fs.locate cwd path.path) with
      | .error e => complainAbout path e; return []
      | .ok names =>
          let found ← names.mapM fun n => do
            let inner := within path (Raw.ofString n)
            match ← Step.linkStat inner with
            | .ok (.directory _) => filesBelow fuel inner
            | .ok (.file ..) => return [inner]
            | _ => return []
          return found.flatten

/-- The patterns of a search, one in each line of a text. -/
def searchPatterns (a : Arguments) (text : Raw) : Step (List Matcher) := do
  let folds := a.lastOf ["i", "y", "noignore"] != none && a.lastOf ["i", "y", "noignore"] != some "noignore"
  let kind := a.lastOf ["E", "F", "G", "P"]
  (text.splitOn '\n').mapM fun line => do
    if kind = some "F" then return Matcher.literal folds line
    else
      let way := if kind = some "E" ∨ kind = some "P" then Regex.Dialect.extended else .basic
      match Matcher.ofText way folds false line with
      | .ok m =>
          for sign in m.idle do
            Step.complain (raw ("warning: " ++ sign ++ " at start of expression"))
          return m
      | .error fault =>
          Step.complain (raw fault.message)
          Step.exit 2

/-- Searches its inputs for lines, in one of the ways of writing patterns. -/
def search (way : List Raw) (words : List Raw) : Step Nat := do
  let words := words.map fun w => match w with
    | '-' :: digits => if !digits.isEmpty && digits.all Char.isDigit then raw "-C" ++ digits else w
    | _ => w
  let a ← match searchOptions.read (way ++ words) with
    | .ok a => pure a
    | .error text => Step.complain text; searchUsage
  let fromFiles ← (a.values "f").mapM fun name => do
    match ← input name with
    | .ok text => return (Raw.lines text)
    | .error e => complainAbout name e; Step.exit 2
  let given := a.values "e" ++ fromFiles.flatten
  let (patterns, operands) ← if !a.hasAny ["e", "f"] then
      match a.operands with
      | [] => searchUsage
      | p :: rest => pure ([p], rest)
    else pure (given, a.operands)
  let matchers ← patterns.mapM (searchPatterns a)
  let s : Search := ⟨matchers.flatten, a.has "v", a.has "w", a.has "x"⟩
  let recursive := a.hasAny ["r", "R"]
  let isHere := operands.isEmpty && recursive
  let operands := if operands.isEmpty then if recursive then [raw "."] else [['-']] else operands
  let isFiltered := fun (name : Raw) =>
    let base := lastComponent name
    let included := a.values "include"
    let fits := fun (p : Raw) => Pattern.isMatch (Pattern.ofText p) base
    (!included.isEmpty && !included.any fits) || (a.values "exclude").any fits
  let number := fun (key : String) => (a.value? key).bind Raw.digits?
  let style : FoundStyle :=
    { named := match a.lastOf ["H", "h"] with
        | some "H" => true
        | some _ => false
        | none => 1 < operands.length || recursive
      numbered := a.has "n"
      offsets := a.has "b"
      onlyMatches := a.has "o"
      before := (number "B").getD ((number "C").getD 0)
      after := (number "A").getD ((number "C").getD 0)
      hasContext := a.hasAny ["A", "B", "C"]
      ending := if a.has "z" then Raw.byte 0 else '\n'
      nameEnding := if a.has "Z" then some (Raw.byte 0) else none
      asText := a.has "a" || a.has "z"
      limit := number "m" }
  let shown := fun (name : Raw) =>
    if name = ['-'] then (a.value? "label").getD (raw "(standard input)") else name
  let nameLine := fun (name : Raw) => shown name ++ [style.nameEnding.getD '\n']
  let one := fun (hasOutput : Bool) (name : Raw) (text : Raw) => do
    let lines := foundLines s style text
    let count := (lines.filter FoundLine.chosen).length
    let found := 0 < count
    if name = ['-'] then
      let last := if a.has "q" then lines.find? FoundLine.chosen
        else if style.limit = some count then (lines.filter FoundLine.chosen).getLast? else none
      let isSeekable ← Step.isSeekable 0
      match last with
      | some l =>
          if isSeekable && a.has "q" then Step.skip 0 text.length
          else takeInput searchBlock (l.offset + l.text.length + 1)
      | none => Step.skip 0 text.length
    if a.has "q" then
      if found then Step.exit 0
    else if a.lastOf ["l", "L"] == some "l" then
      if found then Step.printLater (nameLine name)
    else if a.lastOf ["l", "L"] == some "L" then
      if !found then Step.printLater (nameLine name)
    else if a.has "c" then
      Step.printLine ((if style.named then shown name ++ [style.nameEnding.getD ':'] else []) ++
        Raw.ofNat count)
    else
      let isBinary := !style.asText && text.any fun c => c.toNat == 0
      if isBinary then
        if found then
          Step.complain (shown name ++ raw ": binary file matches")
      else
        if found && hasOutput && style.hasContext then Step.printLine (raw "--")
        Step.printLater (foundText s style (shown name) lines)
    return found
  let (found, failed) ← operands.foldlM (fun (found, failed) name => do
    let names ← if recursive && name ≠ ['-'] && (← Step.isDirectory name) then do
        let below ← filesBelow 4096 name
        pure ((below.map fun p => if isHere then p.drop 2 else p).filter fun p => !isFiltered p)
      else pure [name]
    names.foldlM (fun (found, failed) name => do
      match ← inputAhead name with
      | .ok text => return (found || (← one found name text), failed)
      | .error e =>
          if !a.has "s" then complainAbout name e
          return (found, true)) (found, failed)) (false, false)
  return if failed && !(found && a.has "q") then 2 else if found then 0 else 1

/-- Searches for lines by basic expressions, unless options say otherwise. -/
def grep (words : List Raw) : Step Nat := search [] words

/-- Searches for lines by extended expressions. -/
def egrep (words : List Raw) : Step Nat := search [raw "-E"] words

/-- Searches for lines by plain texts. -/
def fgrep (words : List Raw) : Step Nat := search [raw "-F"] words

end Bootstrap.Utility
