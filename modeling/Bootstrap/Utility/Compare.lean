import Bootstrap.Utility.Remove

/-!
# Utilities that compare files

`cmp` finds the first byte in which two files differ, `diff` the lines that have to be
changed.  The lines that stay are as many as possible, and a change stands as far
back as it can.
-/

namespace Bootstrap.Utility

open Machine

/-- Complains, points to the help in the words of utilities that compare, and ends with two. -/
def compareMisuse {α : Type} (text : Raw) : Step α := do
  let name := (← get).name
  Step.complain text
  Step.complain (raw "Try '" ++ name ++ raw " --help' for more information.")
  Step.exit 2

/-- Reads the arguments of a utility that compares. -/
def compareArguments (o : Options) (words : List Raw) : Step Arguments := do
  match o.read words with
  | .ok a => return a
  | .error text => compareMisuse text

/-! ## Bytes -/

/-- The place of the first difference of two texts, and the number of its line; or the length of a
text that is a front of the other. -/
def firstDifference : (place line : Nat) → Raw → Raw → Option (Nat × Nat × Bool)
  | _, _, [], [] => none
  | place, line, [], _ :: _ | place, line, _ :: _, [] => some (place, line, true)
  | place, line, x :: xs, y :: ys =>
      if x = y then firstDifference (place + 1) (if x = '\n' then line + 1 else line) xs ys
      else some (place, line, false)

/-- A byte as it is shown beside its number. -/
def shownByte (c : Char) : Raw :=
  let n := c.toNat
  let seven := n % 128
  (if 128 ≤ n then raw "M-" else []) ++
    if seven < 32 then ['^', Char.ofNat (seven + 64)]
    else if seven = 127 then raw "^?" else [Char.ofNat seven]

/-- The options of `cmp`. -/
def cmpOptions : Options :=
  ⟨"bci:ln:sv",
    [("print-bytes", .none, "b"), ("ignore-initial", .required, "i"), ("verbose", .none, "l"),
      ("bytes", .required, "n"), ("quiet", .none, "s"), ("silent", .none, "s")], false⟩

/-- Compares two files byte by byte. -/
def cmp (words : List Raw) : Step Nat := do
  let a ← compareArguments cmpOptions words
  match a.operands with
  | [] => compareMisuse (raw "missing operand after " ++ NameQuoted.always (← get).name)
  | first :: rest =>
      let second := rest.headD ['-']
      let skips := rest.drop 1
      match skips.drop 2 with
      | extra :: _ => compareMisuse (raw "extra operand " ++ NameQuoted.always extra)
      | [] =>
          let asked := fun (i : Nat) => do
            let fromOption := (a.value? "i").map fun v =>
              let parts := v.splitOn ':'
              parts.getD i (parts.headD [])
            match (skips[i]?).or fromOption with
            | none => return (0 : Nat)
            | some text =>
                match count? text with
                | some n => return n
                | none =>
                    compareMisuse (raw "invalid --ignore-initial value " ++ NameQuoted.always text)
          let skip1 ← asked 0
          let skip2 ← asked 1
          let read := fun (name : Raw) (skipped : Nat) => do
            match ← input name with
            | .ok text =>
                let text := text.drop skipped
                return match (a.value? "n").bind count? with
                  | some n => text.take n
                  | none => text
            | .error e =>
                if !(a.has "s" ∧ e = .noEntry) then complainAbout name e
                Step.exit 2
          let x ← read first skip1
          let y ← if first = second ∧ first ≠ ['-'] then pure x else
            if first = ['-'] ∧ second = ['-'] then pure x else read second skip2
          compare a first second x y
where
  /-- Compares two texts. -/
  compare (a : Arguments) (first second x y : Raw) : Step Nat := do
    match firstDifference 1 1 x y with
    | none => return 0
    | some (place, line, atEnd) =>
        if a.has "s" then return 1
        else
          let atLineStart := place = 1 || (x[place - 2]? == some '\n')
          let shorter := if x.length < y.length then first else second
          let front := raw "EOF on " ++ NameQuoted.asNeeded shorter
          let octal := fun (c : Char) => Raw.padLeft 3 (Nat.toDigits 8 c.toNat) ' '
          if a.has "l" then
            let pairs := (x.zip y).zipIdx.filter fun p => p.1.1 ≠ p.1.2
            let width := (Raw.ofNat (min x.length y.length)).length
            for ((c, d), i) in pairs do
              let shown := if a.has "b" then
                  octal c ++ ' ' :: Raw.padRight 4 (shownByte c) ' ' ++ ' ' :: octal d ++ ' ' :: shownByte d
                else octal c ++ ' ' :: octal d
              Step.printLine (Raw.padLeft width (Raw.ofNat (i + 1)) ' ' ++ ' ' :: shown)
            if x.length ≠ y.length then
              Step.complain (if min x.length y.length = 0 then front ++ raw " which is empty"
                else front ++ raw " after byte " ++ Raw.ofNat (min x.length y.length))
            return 1
          else if atEnd then
            Step.complain (if place = 1 then front ++ raw " which is empty"
              else front ++ raw " after byte " ++ Raw.ofNat (place - 1) ++
                if atLineStart then raw ", line " ++ Raw.ofNat (line - 1)
                else raw ", in line " ++ Raw.ofNat line)
            return 1
          else
            let c := x.getD (place - 1) ' '
            let d := y.getD (place - 1) ' '
            let kind := if a.has "b" then "byte " else "char "
            let bytes := if a.has "b" then
                raw " is " ++ octal c ++ ' ' :: shownByte c ++ ' ' :: octal d ++ ' ' :: shownByte d
              else []
            Step.printLine (NameQuoted.asNeeded first ++ ' ' :: NameQuoted.asNeeded second ++
              raw " differ: " ++ raw kind ++ Raw.ofNat place ++ raw ", line " ++ Raw.ofNat line ++ bytes)
            return 1

/-! ## Lines -/

/-- A line of a file, and whether it has an end. -/
structure FileLine where
  text : Raw
  isEnded : Bool
  deriving DecidableEq, Repr

/-- The lines of a text. -/
def fileLines (text : Raw) : List FileLine :=
  (Raw.endedRecords '\n' text).map fun line =>
    if line.getLast? = some '\n' then ⟨line.dropLast, true⟩ else ⟨line, false⟩

/-- A stretch of lines to be changed: where it begins in both files, and how many lines go and
come. -/
structure Change where
  oldStart : Nat
  oldCount : Nat
  newStart : Nat
  newCount : Nat
  deriving DecidableEq, Repr

/-- The lengths of the longest common parts of the rests of two lists of numbers: one row for each
rest of the first, which has an entry for each rest of the second. -/
def commonLengths (xs ys : List Nat) : List (Array Nat) :=
  let width := ys.length
  let second := ys.toArray
  xs.foldr (fun x rows =>
    let below := rows.headD (Array.replicate (width + 1) 0)
    let row := (List.range width).foldr (fun j (row : Array Nat) =>
      let n := if second.getD j 0 = x then below.getD (j + 1) 0 + 1
        else max (below.getD j 0) (row.getD (j + 1) 0)
      row.setIfInBounds j n) (Array.replicate (width + 1) 0)
    row :: rows) [Array.replicate (width + 1) 0]

/-- Which lines of each list have no partner in the other; `fuel` bounds the number of steps. -/
def unpaired (second : Array Nat) : (fuel : Nat) → List Nat → List (Array Nat) → (j : Nat) →
    List Bool × List Bool
  | 0, _, _, _ => ([], [])
  | fuel + 1, xs, rows, j =>
      match xs with
      | [] => ([], (List.range (second.size - j)).map fun _ => true)
      | x :: rest =>
          let row := rows.headD #[]
          let below := (rows.drop 1).headD #[]
          if j < second.size ∧ second.getD j 0 = x ∧
              row.getD j 0 = below.getD (j + 1) 0 + 1 then
            let (p, q) := unpaired second fuel rest (rows.drop 1) (j + 1)
            (false :: p, false :: q)
          else if j < second.size ∧ below.getD j 0 < row.getD (j + 1) 0 then
            let (p, q) := unpaired second fuel xs rows (j + 1)
            (p, true :: q)
          else
            let (p, q) := unpaired second fuel rest (rows.drop 1) j
            (true :: p, q)

/-- Marks with every stretch of them moved as far back as its lines allow; `place` is looked at, and
`fuel` bounds the number of steps. -/
def slideBack (lines : Array Nat) : (fuel : Nat) → (place : Nat) → Array Bool → Array Bool
  | 0, _, marks => marks
  | fuel + 1, place, marks =>
      if marks.size ≤ place then marks
      else if !marks.getD place false then slideBack lines fuel (place + 1) marks
      else
        let length := ((marks.toList.drop place).takeWhile id).length
        let stop := place + length
        if stop < marks.size ∧ lines.getD place 0 = lines.getD stop 0 then
          slideBack lines fuel (place + 1)
            ((marks.setIfInBounds place false).setIfInBounds stop true)
        else slideBack lines fuel stop marks

/-- The stretches that marks make; `fuel` bounds the number of steps. -/
def changesOf : (fuel : Nat) → (i j : Nat) → List Bool → List Bool → List Change
  | 0, _, _, _, _ => []
  | fuel + 1, i, j, ps, qs =>
      match ps, qs with
      | [], [] => []
      | false :: ps, false :: qs => changesOf fuel (i + 1) (j + 1) ps qs
      | _, _ =>
          let gone := (ps.takeWhile id).length
          let come := (qs.takeWhile id).length
          if gone + come = 0 then []
          else ⟨i, gone, j, come⟩ :: changesOf fuel (i + gone) (j + come) (ps.drop gone) (qs.drop come)

/-- The number that stands for each line, the same for lines with the same key. -/
def lineNumbers (keys : List Raw) : List Nat :=
  let distinct := keys.foldl (fun (seen : List Raw) k => if seen.contains k then seen else k :: seen) []
  let table := distinct.reverse.zipIdx
  keys.map fun k => (table.lookup k).getD 0

/-- The changes that turn one list of keys into another. -/
def changesBetween (old new : List Raw) : List Change :=
  let numbers := lineNumbers (old ++ new)
  let (xs, ys) := (numbers.take old.length, numbers.drop old.length)
  let front := ((xs.zip ys).takeWhile fun p => p.1 == p.2).length
  let back := (((xs.drop front).reverse.zip (ys.drop front).reverse).takeWhile fun p => p.1 == p.2).length
  let middle := fun (zs : List Nat) => (zs.drop front).take (zs.length - front - back)
  let (mx, my) := (middle xs, middle ys)
  let (p, q) := unpaired my.toArray (mx.length + my.length + 1) mx (commonLengths mx my) 0
  let whole := fun (marks : List Bool) =>
    List.replicate front false ++ marks ++ List.replicate back false
  let slid := fun (zs : List Nat) (marks : List Bool) =>
    (slideBack zs.toArray (2 * zs.length + 2) 0 (whole marks).toArray).toList
  changesOf (xs.length + ys.length + 1) 0 0 (slid xs p) (slid ys q)

/-- How lines are compared. -/
structure LineSense where
  foldsCase : Bool
  /-- Whether runs of blanks are alike, and whether all blanks are left out. -/
  foldsBlanks : Bool
  dropsBlanks : Bool
  ignoresEmpty : Bool

/-- What is compared of a line. -/
def LineSense.key (s : LineSense) (l : FileLine) : Raw :=
  let text := if s.foldsCase then Raw.lower l.text else l.text
  let text := if s.dropsBlanks then text.filter (!Raw.isBlank ·)
    else if s.foldsBlanks then
      (Raw.dropEndWhile Raw.isBlank text).foldr (fun c (rest : Raw) =>
        if Raw.isBlank c then if rest.head? = some ' ' then rest else ' ' :: rest else c :: rest) []
    else text
  if l.isEnded ∨ s.foldsBlanks ∨ s.dropsBlanks then text else text ++ ['\n']

/-- A line behind a mark, with a note if it has no end. -/
def markedLine (mark : String) (l : FileLine) : Raw :=
  raw mark ++ l.text ++ ['\n'] ++ if l.isEnded then [] else raw "\\ No newline at end of file\n"

/-- A range of lines in the usual notation; an empty one is named by the line in front of it. -/
def rangeText (start count : Nat) : Raw :=
  if count ≤ 1 then Raw.ofNat (start + count)
  else Raw.ofNat (start + 1) ++ ',' :: Raw.ofNat (start + count)

/-- A change in the usual notation. -/
def changeText (old new : List FileLine) (c : Change) : Raw :=
  let letter := if c.oldCount = 0 then 'a' else if c.newCount = 0 then 'd' else 'c'
  let gone := (old.drop c.oldStart).take c.oldCount
  let come := (new.drop c.newStart).take c.newCount
  rangeText c.oldStart c.oldCount ++ letter :: rangeText c.newStart c.newCount ++ ['\n'] ++
    gone.flatMap (markedLine "< ") ++ (if letter = 'c' then raw "---\n" else []) ++
    come.flatMap (markedLine "> ")

/-- Changes that are near each other, in groups. -/
def grouped (context : Nat) : List Change → List (List Change)
  | [] => []
  | c :: rest =>
      match grouped context rest with
      | (d :: more) :: groups =>
          if d.oldStart - (c.oldStart + c.oldCount) ≤ 2 * context then (c :: d :: more) :: groups
          else [c] :: (d :: more) :: groups
      | groups => [c] :: groups

/-- A range of lines in the unified notation. -/
def unifiedRange (start count : Nat) : Raw :=
  if count = 1 then Raw.ofNat (start + 1)
  else Raw.ofNat (if count = 0 then start else start + 1) ++ ',' :: Raw.ofNat count

/-- A group of changes in the unified notation, with lines around them. -/
def unifiedText (context : Nat) (old new : List FileLine) (group : List Change) : Raw :=
  let first := group.headD ⟨0, 0, 0, 0⟩
  let last := group.getLastD first
  let before := min context first.oldStart
  let oldEnd := last.oldStart + last.oldCount
  let after := min context (old.length - oldEnd)
  let oldStart := first.oldStart - before
  let newStart := first.newStart - before
  let newEnd := last.newStart + last.newCount
  let (body, reached) := group.foldl (fun (body, reached) c =>
    let same := (old.drop reached).take (c.oldStart - reached)
    (body ++ same.flatMap (markedLine " ") ++
      ((old.drop c.oldStart).take c.oldCount).flatMap (markedLine "-") ++
      ((new.drop c.newStart).take c.newCount).flatMap (markedLine "+"), c.oldStart + c.oldCount))
    (([] : Raw), oldStart)
  raw "@@ -" ++ unifiedRange oldStart (oldEnd + after - oldStart) ++ raw " +" ++
    unifiedRange newStart (newEnd + after - newStart) ++ raw " @@\n" ++ body ++
    ((old.drop reached).take after).flatMap (markedLine " ")

/-- The options of `diff`. -/
def diffOptions : Options :=
  ⟨"abBcC:dEiI:NqrsTtuU:vwx:yZ",
    [("ignore-case", .none, "i"), ("ignore-space-change", .none, "b"),
      ("ignore-all-space", .none, "w"), ("ignore-blank-lines", .none, "B"), ("brief", .none, "q"),
      ("report-identical-files", .none, "s"), ("recursive", .none, "r"), ("new-file", .none, "N"),
      ("unified", .optional, "u"), ("label", .required, "L"), ("text", .none, "a"),
      ("exclude", .required, "x"), ("strip-trailing-cr", .none, "cr"), ("color", .optional, "color"),
      ("normal", .none, "normal")], false⟩

/-- What is compared: two names with the texts they stand for. -/
structure Compared where
  firstName : Raw
  secondName : Raw
  first : Raw
  second : Raw

/-- Compares two texts; `headed` is a line that stands above their changes. -/
def diffTexts (a : Arguments) (headed : Raw) (c : Compared) : Step Nat := do
  let sense : LineSense := ⟨a.has "i", a.has "b", a.has "w", a.has "B"⟩
  let isBinary := fun (text : Raw) => !a.has "a" && text.any fun d => d.toNat == 0
  let named := fun (text : String) =>
    raw "Files " ++ c.firstName ++ raw " and " ++ c.secondName ++ raw text
  if c.first = c.second then
    if a.has "s" then Step.printLine (named " are identical")
    return 0
  else if isBinary c.first || isBinary c.second then
    if a.has "q" then Step.printLine (named " differ")
    else
      Step.printLine (raw "Binary files " ++ c.firstName ++ raw " and " ++ c.secondName ++ raw " differ")
    return if a.has "q" then 1 else 2
  else
    let old := fileLines c.first
    let new := fileLines c.second
    let changes := changesBetween (old.map sense.key) (new.map sense.key)
    let changes := if !sense.ignoresEmpty then changes else changes.filter fun d =>
      !((((old.drop d.oldStart).take d.oldCount) ++ ((new.drop d.newStart).take d.newCount)).all
        fun l => l.text.isEmpty)
    if changes.isEmpty then
      if a.has "s" then Step.printLine (named " are identical")
      return 0
    else if a.has "q" then
      Step.printLine (named " differ")
      return 1
    else
      Step.printLater headed
      if a.hasAny ["u", "U"] then
        let asked := ((a.value? "U").or (a.value? "u")).getD []
        let context := (Raw.digits? asked).getD 3
        let labels := a.values "L"
        let title := fun (i : Nat) (name : Raw) => (labels[i]?).getD name
        Step.printLater (raw "--- " ++ title 0 c.firstName ++ raw "\n+++ " ++ title 1 c.secondName ++ ['\n'])
        Step.printLater ((grouped context changes).flatMap (unifiedText context old new))
      else Step.printLater (changes.flatMap (changeText old new))
      return 1

/-- Compares what two names stand for; `fuel` bounds the depth of directories. -/
def diffEntries (a : Arguments) (options : Raw) :
    (fuel : Nat) → (atTop : Bool) → Raw → Raw → Step Nat
  | 0, _, _, _ => return 2
  | fuel + 1, atTop, x, y => do
      let kind := fun (name : Raw) => do
        if name = ['-'] then return (.ok false : Except Errno Bool)
        else return (← Step.stat name).map Entry.isDirectory
      let text := fun (name : Raw) (found : Except Errno Bool) => do
        if a.has "N" ∧ found.toOption.isNone then return (.ok [] : Except Errno Raw) else input name
      let kx ← kind x
      let ky ← kind y
      let missing := fun (name : Raw) (found : Except Errno Bool) => match found with
        | .error e => if a.has "N" then none else some (name, e)
        | .ok _ => none
      let absent := [missing x kx, missing y ky].filterMap id
      if !absent.isEmpty || (kx.toOption.isNone && ky.toOption.isNone) then
        for (name, e) in absent do
          complainAbout name e
        return 2
      else
        match kx.toOption.getD false, ky.toOption.getD false with
        | true, true => directories fuel x y
        | true, false =>
            if atTop then diffEntries a options fuel false (within x (lastComponent y)) y
            else
              Step.printLine (raw "File " ++ x ++ raw " is a directory while file " ++ y ++
                raw " is a regular file")
              return 1
        | false, true =>
            if atTop then diffEntries a options fuel false x (within y (lastComponent x))
            else
              Step.printLine (raw "File " ++ x ++ raw " is a regular file while file " ++ y ++
                raw " is a directory")
              return 1
        | false, false =>
            match ← text x kx, ← text y ky with
            | .ok p, .ok q =>
                let headed := if atTop || options.isEmpty then [] else options
                diffTexts a (if headed.isEmpty then [] else raw "diff " ++ headed ++ x ++ ' ' :: y ++ ['\n'])
                  ⟨x, y, p, q⟩
            | .error e, _ => complainAbout x e; return 2
            | _, .error e => complainAbout y e; return 2
where
  /-- Compares what is in two directories. -/
  directories (fuel : Nat) (x y : Raw) : Step Nat := do
    let names := fun (name : Raw) => do
      match ← Step.look fun fs cwd => do fs.list (← fs.locate cwd name.path) with
      | .ok names => return names.map Raw.ofString
      | .error _ => return []
    let xs ← names x
    let ys ← names y
    let all := (xs ++ ys.filter fun n => !xs.contains n).mergeSort fun p q => !q.precedes p
    all.foldlM (fun status name => do
      if !ys.contains name && !a.has "N" then
        Step.printLine (raw "Only in " ++ x ++ raw ": " ++ name)
        return max status 1
      else if !xs.contains name && !a.has "N" then
        Step.printLine (raw "Only in " ++ y ++ raw ": " ++ name)
        return max status 1
      else
        let (p, q) := (within x name, within y name)
        if (← Step.isDirectory p) && (← Step.isDirectory q) && !a.has "r" then
          Step.printLine (raw "Common subdirectories: " ++ p ++ raw " and " ++ q)
          return status
        else
          let heading := if a.has "q" then [] else if options.isEmpty then raw " " else options
          return max status (← inner fuel heading p q)) 0
  /-- Compares two things in directories, with a line above that says which. -/
  inner (fuel : Nat) (heading p q : Raw) : Step Nat := do
    if (← Step.isDirectory p) && (← Step.isDirectory q) then directoriesBelow fuel p q
    else
      match ← input p, ← input q with
      | .ok s, .ok t =>
          let above := if heading.isEmpty then []
            else raw "diff " ++ heading.dropWhile (· == ' ') ++ p ++ ' ' :: q ++ ['\n']
          diffTexts a above ⟨p, q, s, t⟩
      | s, t =>
          let orEmpty := fun (r : Except Errno Raw) => if a.has "N" then some (r.toOption.getD []) else r.toOption
          match orEmpty s, orEmpty t with
          | some s, some t =>
              let above := if heading.isEmpty then []
                else raw "diff " ++ heading.dropWhile (· == ' ') ++ p ++ ' ' :: q ++ ['\n']
              diffTexts a above ⟨p, q, s, t⟩
          | _, _ => return 2
  /-- Compares two directories in directories. -/
  directoriesBelow (fuel : Nat) (p q : Raw) : Step Nat := diffEntries a options fuel false p q

/-- Compares two files line by line. -/
def diff (words : List Raw) : Step Nat := do
  let a ← compareArguments diffOptions words
  match a.operands with
  | [] => compareMisuse (raw "missing operand after " ++ NameQuoted.always (← get).name)
  | [only] => compareMisuse (raw "missing operand after " ++ NameQuoted.always only)
  | [x, y] =>
      let options := (words.filter fun w => w.head? = some '-' ∧ 1 < w.length).flatMap (· ++ [' '])
      diffEntries a options 4096 true x y
  | _ :: _ :: extra :: _ => compareMisuse (raw "extra operand " ++ NameQuoted.always extra)

end Bootstrap.Utility
