import Bootstrap.Text.Decimal
import Bootstrap.Utility.Arguments

/-!
# Utilities on lines in order

Lines are put in order, equal ones are brought together, and two files in order are
merged.  An order is a comparison of keys: stretches of a line, compared in one of
several ways.  Lines whose keys are equal are compared as they are.
-/

namespace Bootstrap.Utility

open Machine

/-! ## Keys -/

/-- How keys are compared. -/
inductive KeyKind where
  | bytes
  | number
  | general
  | human
  | month
  | version
  deriving DecidableEq, Repr

/-- An end of a key: a field, and a character in it; character zero is the end of the field. -/
structure KeyEnd where
  field : Nat
  character : Nat
  /-- Whether blanks in front of the character do not count. -/
  skipsBlanks : Bool

/-- A key, which is the whole line behind its first end if it has no last one. -/
structure SortKey where
  first : KeyEnd
  last : Option KeyEnd
  kind : KeyKind
  reversed : Bool
  folds : Bool
  dictionary : Bool
  printable : Bool

/-- Whether a character separates fields where no separator is given. -/
def isFieldBlank (c : Char) : Bool := c == ' ' || c == '\t' || c == '\n'

/-- The text behind so many fields.  A separator stays in front of what it separates if `keeps`. -/
def dropFields (separator : Option Char) (keeps : Bool) : (count : Nat) → Raw → Raw
  | 0, text => text
  | count + 1, text =>
      match separator with
      | none => dropFields separator keeps count
          ((text.dropWhile isFieldBlank).dropWhile fun c => !isFieldBlank c)
      | some s =>
          match text.dropWhile (· ≠ s) with
          | [] => []
          | c :: rest => if count = 0 && keeps then c :: rest else dropFields separator keeps count rest

namespace SortKey

/-- The number of characters of a line in front of the key. -/
def start (k : SortKey) (separator : Option Char) (line : Raw) : Nat :=
  let rest := dropFields separator false (k.first.field - 1) line
  let rest := if k.first.skipsBlanks then rest.dropWhile isFieldBlank else rest
  line.length - rest.length + (k.first.character - 1)

/-- The number of characters of a line up to the end of the key. -/
def stop (k : SortKey) (separator : Option Char) (line : Raw) : Nat :=
  match k.last with
  | none => line.length
  | some e =>
      if e.character = 0 then
        line.length - (dropFields separator true e.field line).length
      else
        let rest := dropFields separator false (e.field - 1) line
        let rest := if e.skipsBlanks then rest.dropWhile isFieldBlank else rest
        min line.length (line.length - rest.length + e.character)

/-- The key of a line. -/
def ofLine (k : SortKey) (separator : Option Char) (line : Raw) : Raw :=
  (line.take (k.stop separator line)).drop (k.start separator line)

end SortKey

/-- A number as digits: whether it is negative, its whole part, and its fraction. -/
structure DigitNumber where
  negative : Bool
  whole : Nat
  fraction : Raw

namespace DigitNumber

/-- The number at the front of a text, and what follows it; a text without one is zero. -/
def leading (text : Raw) : DigitNumber × Raw :=
  let body := text.dropWhile isFieldBlank
  let (negative, body) := match body with
    | '-' :: rest => (true, rest)
    | _ => (false, body)
  let whole := body.takeWhile Char.isDigit
  let behind := body.drop whole.length
  let fraction := match behind with
    | '.' :: rest => rest.takeWhile Char.isDigit
    | _ => []
  let rest := match behind with
    | '.' :: rest => rest.drop fraction.length
    | _ => behind
  let n := (Raw.digits? whole).getD 0
  let f := Raw.dropEndWhile (· == '0') fraction
  (⟨negative && !(n = 0 && f.isEmpty), n, f⟩, rest)

/-- Compares numbers that are not negative. -/
def compareSizes (x y : DigitNumber) : Ordering :=
  if x.whole ≠ y.whole then compare x.whole y.whole
  else if x.fraction = y.fraction then .eq
  else if x.fraction.precedes y.fraction then .lt else .gt

/-- Compares numbers. -/
def compare (x y : DigitNumber) : Ordering :=
  match x.negative, y.negative with
  | true, false => .lt
  | false, true => .gt
  | false, false => compareSizes x y
  | true, true => compareSizes y x

end DigitNumber

/-- Compares texts in byte order. -/
def compareBytes (a b : Raw) : Ordering :=
  if a.precedes b then .lt else if b.precedes a then .gt else .eq

/-- The months by the names that begin a text. -/
def monthNames : List String :=
  ["JAN", "FEB", "MAR", "APR", "MAY", "JUN", "JUL", "AUG", "SEP", "OCT", "NOV", "DEC"]

/-- The number of the month that a text begins with. -/
def monthOf (text : Raw) : Nat :=
  let name := Raw.upper ((text.dropWhile isFieldBlank).take 3)
  match monthNames.findIdx? fun m => raw m = name with
  | some i => i + 1
  | none => 0

/-- The rank of the letter behind a number. -/
def humanRank (x : DigitNumber × Raw) : Int :=
  let rank : Nat := match x.2 with
    | c :: _ => ((("KMGTPEZY".toList.findIdx? (· == c)).map (· + 1)).getD (if c = 'k' then 1 else 0))
    | [] => 0
  if x.1.negative then -(rank : Int) else rank

/-- The rank of a character in the text between the numbers of a version: a tilde comes in front of
the end, letters in front of everything else. -/
def versionRank (c : Char) : Int :=
  if c = '~' then -1 else if c.isAlpha then c.toNat else c.toNat + 256

/-- Compares versions: their texts and their numbers by turns.  `fuel` bounds their number. -/
def compareVersions : (fuel : Nat) → Raw → Raw → Ordering
  | 0, _, _ => .eq
  | fuel + 1, a, b =>
      if a.isEmpty && b.isEmpty then .eq
      else
        let words := fun (text : Raw) => text.takeWhile fun c => !c.isDigit
        let (x, y) := (words a, words b)
        let ranks := fun (text : Raw) => text.map versionRank
        match compareRanks (ranks x) (ranks y) with
        | .eq =>
            let (a, b) := (a.drop x.length, b.drop y.length)
            let (m, n) := (a.takeWhile Char.isDigit, b.takeWhile Char.isDigit)
            match compare ((Raw.digits? m).getD 0) ((Raw.digits? n).getD 0) with
            | .eq => compareVersions fuel (a.drop m.length) (b.drop n.length)
            | o => o
        | o => o
where
  /-- Compares ranks; the end of a text has rank zero. -/
  compareRanks : List Int → List Int → Ordering
    | [], [] => .eq
    | [], y :: _ => compare 0 y
    | x :: _, [] => compare x 0
    | x :: xs, y :: ys => if x = y then compareRanks xs ys else compare x y

/-- Compares floating-point numbers; what is none comes first. -/
def compareGeneral (a b : Raw) : Ordering :=
  match Decimal.leading? a, Decimal.leading? b with
  | none, none => .eq
  | none, some _ => .lt
  | some _, none => .gt
  | some (x, _), some (y, _) => if x < y then .lt else if y < x then .gt else .eq

namespace SortKey

/-- The key without what does not count in it. -/
def reduced (k : SortKey) (text : Raw) : Raw :=
  let kept := text.filter fun c =>
    (!k.dictionary || c.isAlphanum || isFieldBlank c) &&
      (!k.printable || NameQuoted.isPrintable c)
  if k.folds then Raw.upper kept else kept

/-- Compares the keys of two lines. -/
def compareLines (k : SortKey) (separator : Option Char) (a b : Raw) : Ordering :=
  let x := k.ofLine separator a
  let y := k.ofLine separator b
  let o := match k.kind with
    | .bytes => compareBytes (k.reduced x) (k.reduced y)
    | .number => (DigitNumber.leading x).1.compare (DigitNumber.leading y).1
    | .general => compareGeneral x y
    | .human =>
        let (m, n) := (DigitNumber.leading x, DigitNumber.leading y)
        (compare (humanRank m) (humanRank n)).then (m.1.compare n.1)
    | .month => compare (monthOf x) (monthOf y)
    | .version => compareVersions (x.length + y.length + 1) x y
  if k.reversed then o.swap else o

/-- A key that is the whole line. -/
def whole : SortKey := ⟨⟨1, 1, false⟩, none, .bytes, false, false, false, false⟩

/-- The key after an option letter of its order. -/
def withLetter (k : SortKey) (atEnd : Bool) : Char → Option SortKey
  | 'n' => some { k with kind := .number }
  | 'g' => some { k with kind := .general }
  | 'h' => some { k with kind := .human }
  | 'M' => some { k with kind := .month }
  | 'V' => some { k with kind := .version }
  | 'r' => some { k with reversed := true }
  | 'f' => some { k with folds := true }
  | 'd' => some { k with dictionary := true }
  | 'i' => some { k with printable := true }
  | 'b' =>
      some (if atEnd then { k with last := k.last.map fun e => { e with skipsBlanks := true } }
        else { k with first := { k.first with skipsBlanks := true } })
  | _ => none

/-- The key after several letters. -/
def withLetters (k : SortKey) (atEnd : Bool) (letters : Raw) : Option SortKey :=
  letters.foldlM (fun k c => k.withLetter atEnd c) k

/-- Whether a key is compared in the usual way. -/
def isUsual (k : SortKey) : Bool :=
  k.kind = .bytes && !k.reversed && !k.folds && !k.dictionary && !k.printable &&
    !k.first.skipsBlanks && !(k.last.map KeyEnd.skipsBlanks).getD false

/-- An end of a key as it is written, and what follows it. -/
def end? (text : Raw) : Option (Nat × Option Nat × Raw) := do
  let digits := text.takeWhile Char.isDigit
  let field ← Raw.digits? digits
  match text.drop digits.length with
  | '.' :: rest =>
      let more := rest.takeWhile Char.isDigit
      let character ← Raw.digits? more
      return (field, some character, rest.drop more.length)
  | rest => return (field, none, rest)

/-- Reads a key. -/
def ofText (text : Raw) : Except Raw SortKey := do
  let wrong := fun (what : String) =>
    raw what ++ raw ": invalid field specification " ++ NameQuoted.always text
  match end? text with
  | none =>
      .error (raw "invalid number at field start: invalid count at start of " ++
        NameQuoted.always text)
  | some (field, character, rest) =>
      if field = 0 then .error (wrong "field number is zero")
      else if character = some 0 then .error (wrong "character offset is zero")
      else
        let letters := rest.takeWhile Char.isAlpha
        let k := { whole with first := ⟨field, character.getD 1, false⟩ }
        match k.withLetters false letters, rest.drop letters.length with
        | some k, [] => return k
        | some k, ',' :: rest =>
            match end? rest with
            | none =>
                .error (raw "invalid number after ',': invalid count at start of " ++
                  NameQuoted.always rest)
            | some (field, character, rest) =>
                if field = 0 then .error (wrong "field number is zero")
                else
                  match { k with last := some ⟨field, character.getD 0, false⟩ }.withLetters true rest with
                  | some k => return k
                  | none => .error (wrong "stray character in field spec")
        | _, _ => .error (wrong "stray character in field spec")

end SortKey

/-! ## Sorting -/

/-- An order of lines. -/
structure LineOrder where
  keys : List SortKey
  separator : Option Char
  reversed : Bool
  /-- Whether lines with equal keys stay as they are. -/
  stable : Bool

/-- Compares lines by their keys alone. -/
def LineOrder.compareKeys (o : LineOrder) (a b : Raw) : Ordering :=
  match o.keys with
  | [] => .eq
  | keys => keys.foldl (fun found k => found.then (k.compareLines o.separator a b)) .eq

/-- Compares lines. -/
def LineOrder.compare (o : LineOrder) (a b : Raw) : Ordering :=
  let byKeys := o.compareKeys a b
  if o.stable && !o.keys.isEmpty then byKeys
  else
    let plain := compareBytes a b
    byKeys.then (if o.reversed then plain.swap else plain)

/-- The options of `sort`. -/
def sortOptions : Options :=
  ⟨"bdfghiMnrRVcCmo:st:uzk:S:T:",
    [("ignore-leading-blanks", .none, "b"), ("dictionary-order", .none, "d"),
      ("ignore-case", .none, "f"), ("general-numeric-sort", .none, "g"),
      ("human-numeric-sort", .none, "h"), ("ignore-nonprinting", .none, "i"),
      ("month-sort", .none, "M"), ("numeric-sort", .none, "n"), ("reverse", .none, "r"),
      ("version-sort", .none, "V"), ("check", .optional, "c"), ("merge", .none, "m"),
      ("output", .required, "o"), ("stable", .none, "s"), ("field-separator", .required, "t"),
      ("unique", .none, "u"), ("zero-terminated", .none, "z"), ("key", .required, "k")], false⟩

/-- Complains, and ends `sort`. -/
def sortFault {α : Type} (text : Raw) : Step α := do
  Step.complain text
  Step.exit 2

/-- The order that options ask for. -/
def orderOf (a : Arguments) : Step LineOrder := do
  let letters := (a.options.map (·.1)).filter fun k => "bdfghiMnrV".toList.map (String.ofList [·]) |>.contains k
  let usual := (SortKey.whole.withLetters false (letters.flatMap String.toList)).getD .whole
  let separator ← match a.value? "t" with
    | none => pure none
    | some [] => sortFault (raw "empty tab")
    | some [c] => pure (some c)
    | some ['\\', '0'] => pure (some (Raw.byte 0))
    | some text => sortFault (raw "multi-character tab " ++ NameQuoted.always text)
  let keys ← (a.values "k").mapM fun text => do
    match SortKey.ofText text with
    | .ok k => return if k.isUsual then
        { usual with
          first := { k.first with skipsBlanks := usual.first.skipsBlanks }
          last := k.last.map fun e => { e with skipsBlanks := usual.first.skipsBlanks } }
        else k
    | .error message => sortFault message
  let keys := if keys.isEmpty && !({ usual with reversed := false } : SortKey).isUsual then [usual]
    else keys
  return ⟨keys, separator, usual.reversed, a.hasAny ["s", "u"]⟩

/-- The first of several equal lines in a row. -/
def firstOfEqual (equal : Raw → Raw → Bool) : List Raw → List Raw
  | [] => []
  | line :: rest =>
      match firstOfEqual equal rest with
      | [] => [line]
      | next :: more => if equal line next then line :: more else line :: next :: more

/-- The number and the text of the first line that is out of order. -/
def disorder? (o : LineOrder) (strict : Bool) : (number : Nat) → List Raw → Option (Nat × Raw)
  | number, a :: b :: rest =>
      match o.compare a b with
      | .gt => some (number + 1, b)
      | .eq => if strict then some (number + 1, b) else disorder? o strict (number + 1) (b :: rest)
      | .lt => disorder? o strict (number + 1) (b :: rest)
  | _, _ => none

/-- Puts the lines of its inputs in order, or says whether they are. -/
def sort (words : List Raw) : Step Nat := do
  let a ← arguments 2 sortOptions words
  let o ← orderOf a
  let ending := if a.has "z" then Raw.byte 0 else '\n'
  let texts ← a.inputs.mapM fun name => do
    match ← input name with
    | .ok text => return text
    | .error e =>
        if isReadFault e then
          sortFault (raw "read failed: " ++ NameQuoted.asNeeded name ++ raw ": " ++ raw e.strerror)
        else
          sortFault (raw "cannot read: " ++ NameQuoted.asNeeded name ++ raw ": " ++ raw e.strerror)
  let lines := texts.flatMap (Raw.records ending)
  let unique := a.has "u"
  if a.hasAny ["c", "C"] then
    match disorder? o unique 1 lines with
    | none => return 0
    | some (number, line) =>
        if a.has "c" then
          Step.complain (NameQuoted.asNeeded (a.inputs.headD []) ++ ':' :: Raw.ofNat number ++
            raw ": disorder: " ++ line)
        return 1
  else
    let ordered := lines.mergeSort fun x y => o.compare x y != .gt
    let equal := fun x y => (if o.keys.isEmpty then compareBytes x y else o.compareKeys x y) == .eq
    let ordered := if unique then firstOfEqual equal ordered else ordered
    let text := ordered.flatMap (· ++ [ending])
    match a.value? "o" with
    | none => Step.printLater text; return 0
    | some name =>
        match ← Step.writeFile name .afresh text with
        | .ok () => return 0
        | .error e =>
            sortFault (raw "open failed: " ++ NameQuoted.asNeeded name ++ raw ": " ++ raw e.strerror)

/-! ## Equal lines -/

/-- The options of `uniq`. -/
def uniqueOptions : Options :=
  ⟨"cdDuif:s:w:z",
    [("count", .none, "c"), ("repeated", .none, "d"), ("unique", .none, "u"),
      ("ignore-case", .none, "i"), ("skip-fields", .required, "f"),
      ("skip-chars", .required, "s"), ("check-chars", .required, "w"),
      ("zero-terminated", .none, "z"), ("all-repeated", .optional, "D")], false⟩

/-- Runs of lines that stand behind each other and are equal. -/
def runsBy (equal : Raw → Raw → Bool) : List Raw → List (List Raw)
  | [] => []
  | line :: rest =>
      match runsBy equal rest with
      | (next :: more) :: runs =>
          if equal line next then (line :: next :: more) :: runs else [line] :: (next :: more) :: runs
      | runs => [line] :: runs

/-- Brings equal lines together. -/
def uniq (words : List Raw) : Step Nat := do
  let a ← arguments 1 uniqueOptions words
  let number := fun (key what : String) => do
    match a.value? key with
    | none => return (none : Option Nat)
    | some text =>
        match count? text with
        | some n => return some n
        | none =>
            Step.complain (text ++ raw ": invalid number of " ++ raw what)
            Step.exit 1
  let fields ← number "f" "fields to skip"
  let characters ← number "s" "bytes to skip"
  let width ← number "w" "bytes to compare"
  match a.operands with
  | _ :: _ :: extra :: _ => extraOperand 1 extra
  | operands =>
      let name := operands.headD ['-']
      let ending := if a.has "z" then Raw.byte 0 else '\n'
      let key := fun (line : Raw) =>
        let line := (dropFields none false (fields.getD 0) line).drop (characters.getD 0)
        let line := match width with
          | some n => line.take n
          | none => line
        if a.has "i" then Raw.upper line else line
      match ← input name with
      | .error e =>
          if isReadFault e then
            Step.complain (raw "error reading " ++ NameQuoted.always name ++ raw ": " ++ raw e.strerror)
          else complainAbout name e
          return 1
      | .ok text =>
          let runs := runsBy (fun x y => key x == key y) (Raw.records ending text)
          let kept := runs.filter fun run =>
            !(a.hasAny ["d", "D"] && run.length < 2) && !(a.has "u" && 1 < run.length)
          let shown := kept.flatMap fun run =>
            let lines := if a.has "D" then run else run.take 1
            let label := if a.has "c" then Raw.padLeft 7 (Raw.ofNat run.length) ' ' ++ [' '] else []
            lines.flatMap fun line => label ++ line ++ [ending]
          match operands with
          | [_, target] =>
              match ← Step.writeFile target .afresh shown with
              | .ok () => return 0
              | .error e => complainAbout target e; return 1
          | _ => Step.printLater shown; return 0

/-! ## Two files in order -/

/-- Ends a utility that needs two operands and has others. -/
def twoOperands (operands : List Raw) : Step (Raw × Raw) := do
  match operands with
  | [a, b] => return (a, b)
  | [] => missingOperand 1
  | [a] => misuse 1 (raw "missing operand after " ++ NameQuoted.always a)
  | _ :: _ :: c :: _ => extraOperand 1 c

/-- The lines of an input that has to be there. -/
def linesOf (name : Raw) (ending : Char) : Step (List Raw) := do
  match ← input name with
  | .ok text => return Raw.records ending text
  | .error e => complainAbout name e; Step.exit 1

/-- What is to be said when lines are merged. -/
inductive Merged where
  | first (line : Raw)
  | second (line : Raw)
  | both (line : Raw)
  /-- A file turns out not to be in order. -/
  | unordered (file : Nat)

/-- What the latest lines of both files were, and which file was found out of order. -/
structure MergeNotes where
  /-- Whether some line has no partner. -/
  unpaired : Bool
  firstFound : Bool
  secondFound : Bool

/-- Merges lines, and notes where a file is out of order as soon as a line has no partner; `fuel`
bounds their number. -/
def merge : (fuel : Nat) → MergeNotes → List Raw → List Raw → List Merged
  | 0, _, _, _ => []
  | fuel + 1, n, xs, ys =>
      let isBad := fun (lines : List Raw) => match lines with
        | a :: b :: _ => b.precedes a
        | _ => false
      let advance := fun (n : MergeNotes) (item : Merged) (movesFirst movesSecond : Bool) =>
        let late1 := movesFirst && n.unpaired && !n.firstFound && isBad xs
        let late2 := movesSecond && n.unpaired && !n.secondFound && isBad ys
        item :: ((if late1 then [Merged.unordered 1] else []) ++
          (if late2 then [.unordered 2] else []) ++
          merge fuel { n with firstFound := n.firstFound || late1
                              secondFound := n.secondFound || late2 }
            (if movesFirst then xs.tail else xs) (if movesSecond then ys.tail else ys))
      match xs, ys with
      | [], [] => []
      | x :: _, [] => advance { n with unpaired := true } (.first x) true false
      | [], y :: _ => advance { n with unpaired := true } (.second y) false true
      | x :: _, y :: _ =>
          match compareBytes x y with
          | .eq => advance n (.both x) true true
          | .lt => advance { n with unpaired := true } (.first x) true false
          | .gt => advance { n with unpaired := true } (.second y) false true

/-- Prints in columns which lines two files in order have alone and which they share. -/
def comm (words : List Raw) : Step Nat := do
  let a ← arguments 1 ⟨"123z",
    [("check-order", .none, "check"), ("nocheck-order", .none, "nocheck"),
      ("output-delimiter", .required, "delimiter"), ("zero-terminated", .none, "z"),
      ("total", .none, "total")], false⟩ words
  let (x, y) ← twoOperands a.operands
  let ending := if a.has "z" then Raw.byte 0 else '\n'
  let xs ← linesOf x ending
  let ys ← linesOf y ending
  let between := (a.value? "delimiter").getD ['\t']
  let column := fun (number : String) (others : List String) (line : Raw) =>
    if a.has number then []
    else (others.filter fun o => !a.has o).flatMap (fun _ => between) ++ line ++ [ending]
  let merged := merge (xs.length + ys.length + 1) ⟨false, false, false⟩ xs ys
  let found ← merged.foldlM (fun found item => do
    match item with
    | .first line => Step.printLater (column "1" [] line); return found
    | .second line => Step.printLater (column "2" ["1"] line); return found
    | .both line => Step.printLater (column "3" ["1", "2"] line); return found
    | .unordered file =>
        if a.has "nocheck" then return found
        else
          Step.complain (raw "file " ++ Raw.ofNat file ++ raw " is not in sorted order")
          return true) false
  if found then
    Step.complain (raw "input is not in sorted order")
    return 1
  else return 0

/-- How lines of two files are joined. -/
structure Joining where
  separator : Option Char
  firstField : Nat
  secondField : Nat
  folds : Bool
  filler : Raw
  /-- The fields that are printed: the file and the number of the field. -/
  format : Option (List (Nat × Nat))

namespace Joining

/-- The fields of a line. -/
def fieldsOf (j : Joining) (line : Raw) : List Raw :=
  match j.separator with
  | some c => line.splitOn c
  | none =>
      ((line.map fun c => if isFieldBlank c then ' ' else c).splitOn ' ').filter (!·.isEmpty)

/-- The field of a line that is compared. -/
def key (j : Joining) (number : Nat) (fields : List Raw) : Raw :=
  let field := fields.getD (number - 1) []
  if j.folds then Raw.upper field else field

/-- The output for fields of both files, of which one may be missing. -/
def row (j : Joining) (xs ys : Option (List Raw)) : Raw :=
  let between := [j.separator.getD ' ']
  let filled := fun (field : Option Raw) => match field with
    | some [] | none => j.filler
    | some f => f
  let shared := match xs with
    | some fields => fields[j.firstField - 1]?
    | none => (ys.getD [])[j.secondField - 1]?
  let picked := match j.format with
    | some format => format.map fun (file, number) =>
        if file = 0 then filled shared
        else filled (((if file = 1 then xs else ys).getD [])[number - 1]?)
    | none =>
        let others := fun (fields : Option (List Raw)) (number : Nat) =>
          ((fields.getD []).eraseIdx (number - 1)).map fun f => filled (some f)
        filled shared :: others xs j.firstField ++ others ys j.secondField
  Raw.joined between picked

/-- The lines whose key is the same as that of the first. -/
def group (keyOf : List Raw → Raw) (rows : List (List Raw)) : List (List Raw) :=
  rows.takeWhile fun r => keyOf r == keyOf (rows.headD [])

/-- Joins the lines of two files; `alone` says which lines without a partner are printed, and
`paired` whether the others are.  `fuel` bounds the number of steps. -/
def rows (j : Joining) (alone : List Nat) (paired : Bool) :
    (fuel : Nat) → List (List Raw) → List (List Raw) → List Raw
  | 0, _, _ => []
  | fuel + 1, xs, ys =>
      let keyX := j.key j.firstField
      let keyY := j.key j.secondField
      let onlyX := fun (x : List Raw) (rest : List (List Raw)) =>
        (if alone.contains 1 then [j.row (some x) none] else []) ++ rows j alone paired fuel rest ys
      let onlyY := fun (y : List Raw) (rest : List (List Raw)) =>
        (if alone.contains 2 then [j.row none (some y)] else []) ++ rows j alone paired fuel xs rest
      match xs, ys with
      | [], [] => []
      | x :: rest, [] => onlyX x rest
      | [], y :: rest => onlyY y rest
      | x :: restX, y :: restY =>
          match compareBytes (keyX x) (keyY y) with
          | .lt => onlyX x restX
          | .gt => onlyY y restY
          | .eq =>
              let same := group keyX xs
              let partners := group keyY ys
              let printed := if paired then
                  same.flatMap fun x => partners.map fun y => j.row (some x) (some y)
                else []
              printed ++ rows j alone paired fuel (xs.drop same.length) (ys.drop partners.length)

end Joining

/-- Joins the lines of two files in order that agree in a field. -/
def join (words : List Raw) : Step Nat := do
  let a ← arguments 1 ⟨"a:e:ij:o:t:v:1:2:z",
    [("ignore-case", .none, "i"), ("check-order", .none, "check"),
      ("nocheck-order", .none, "nocheck"), ("header", .none, "header")], false⟩ words
  let (x, y) ← twoOperands a.operands
  let number := fun (keys : List String) =>
    (((keys.filterMap a.value?).head?).bind Raw.digits?).getD 1
  let format := (a.value? "o").map fun text =>
    ((text.map fun c => if c = ',' then ' ' else c).splitOn ' ').filterMap fun item =>
      match item with
      | ['0'] => some (0, 0)
      | file :: '.' :: digits => (Raw.digits? digits).map fun n => (file.toNat - 48, n)
      | _ => none
  let j : Joining :=
    { separator := (a.value? "t").bind List.head?
      firstField := number ["1", "j"]
      secondField := number ["2", "j"]
      folds := a.has "i"
      filler := (a.value? "e").getD []
      format := format }
  let xs ← linesOf x '\n'
  let ys ← linesOf y '\n'
  let alone := (a.values "a" ++ a.values "v").filterMap Raw.digits?
  let rows := j.rows alone (a.values "v").isEmpty (xs.length + ys.length + 1)
    (xs.map j.fieldsOf) (ys.map j.fieldsOf)
  Step.printLater (Raw.ofLines rows)
  return 0

end Bootstrap.Utility
