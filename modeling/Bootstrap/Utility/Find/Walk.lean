import Bootstrap.Utility.Ending
import Bootstrap.Utility.Find.Expression
import Bootstrap.Utility.Listing

/-!
# Finding files

The directories that are named are gone through to their ends, and the expression is
evaluated for each file on the way.  Names in a directory come in their order.
-/

namespace Bootstrap.Utility.Find

open Machine

/-- Which links are followed. -/
inductive Following where
  | none
  /-- Those that are named. -/
  | named
  | all
  deriving DecidableEq, Repr

/-- A file on the way. -/
structure Visit where
  /-- The path that the way began with. -/
  start : Raw
  path : Raw
  depth : Nat
  facts : FileFacts

namespace Visit

/-- The last part of the path. -/
def name (v : Visit) : Raw :=
  let last := lastComponent v.path
  if last.isEmpty then v.path.take 1 else last

/-- What is in front of the last part. -/
def directory (v : Visit) : Raw :=
  let cut := Raw.dropEndWhile (· == '/') v.path
  let front := cut.take (cut.length - (lastComponent v.path).length)
  if front.isEmpty then if cut.isEmpty then v.path.take 1 else ['.']
  else Raw.dropEndWhile (· == '/') front

/-- The path behind the one that the way began with. -/
def relative (v : Visit) : Raw := (v.path.drop v.start.length).dropWhile (· == '/')

/-- The letter of an entry's kind. -/
def letter (e : Entry) : Char :=
  match e with
  | .file .. => 'f'
  | e => kindLetter e

end Visit

/-- How a search stands. -/
structure Search where
  status : Nat
  /-- Whether it stays away from what is below the present file. -/
  pruned : Bool
  /-- The files that commands still have to be run for, by their numbers; the latest first. -/
  waiting : List (Nat × List Raw × List Raw)

/-- A step of a search. -/
abbrev Searching := StateT Search Step

/-- Complains about a file; the search has failed. -/
def failed (name : Raw) (e : Errno) : Searching Unit := do
  Step.complain (NameQuoted.always name ++ raw ": " ++ raw e.strerror)
  modify fun s => { s with status := 1 }

/-- How many units of a size an entry takes. -/
def unitsOf (size unit : Nat) : Nat := (size + unit - 1) / unit

/-- The answer to a question about a file. -/
def answer (v : Visit) : Question → Step Bool
  | .always b => return b
  | .name folds p => return Pattern.isMatch p (if folds then Raw.lower v.name else v.name)
  | .path folds p => return Pattern.isMatch p (if folds then Raw.lower v.path else v.path)
  | .target folds p =>
      match v.facts.entry with
      | .link target =>
          let text := Raw.ofString target
          return Pattern.isMatch p (if folds then Raw.lower text else text)
      | _ => return false
  | .expression m => return (m.matchWhole? v.path.toArray).isSome
  | .kind follows letters => do
      let entry ← if follows then
          match ← Step.stat v.path with
          | .ok e => pure e
          | .error _ => pure v.facts.entry
        else pure v.facts.entry
      return letters.contains (Visit.letter entry)
  | .size b unit => return b.admits (unitsOf v.facts.entry.size unit)
  | .empty => do
      match v.facts.entry with
      | .file content _ => return content.isEmpty
      | .directory _ =>
          match ← Step.look fun fs cwd => do fs.list (← fs.locate cwd v.path.path) with
          | .ok names => return names.isEmpty
          | .error _ => return false
      | _ => return false
  | .bits t bits =>
      let mode := v.facts.entry.mode
      match t with
      | .exactly => return mode == bits
      | .all => return mode &&& bits == bits
      | .any => return bits == 0 || mode &&& bits != 0
  | .newer instant => return instant < v.facts.time
  | .age b unit => do
      let age := (← Step.files).now - v.facts.time
      return b.admits (age.toNat / unit)
  | .links b => return b.admits v.facts.links
  | .number b => return b.admits v.facts.number
  | .access bit => do
      match ← Step.stat v.path with
      | .ok e => return e.allows bit
      | .error _ => return false
  | .sameAs number => return v.facts.number == number

/-- The text of a directive of a format. -/
def directive (v : Visit) (c : Char) : Option Raw :=
  match c with
  | 'p' => some v.path
  | 'f' => some v.name
  | 'h' => some v.directory
  | 'H' => some v.start
  | 'P' => some v.relative
  | 'd' => some (Raw.ofNat v.depth)
  | 's' => some (Raw.ofNat v.facts.entry.size)
  | 'm' => some (Nat.toDigits 8 v.facts.entry.mode)
  | 'M' => some (kindLetter v.facts.entry :: modeLetters v.facts.entry.mode)
  | 'y' | 'Y' => some [Visit.letter v.facts.entry]
  | 'l' =>
      match v.facts.entry with
      | .link target => some (Raw.ofString target)
      | _ => some []
  | 'u' | 'g' => some (raw "root")
  | 'U' | 'G' | 'D' => some ['0']
  | 'n' => some (Raw.ofNat v.facts.links)
  | 'i' => some (Raw.ofNat v.facts.number)
  | 'b' => some (Raw.ofNat (blockCount v.facts.entry))
  | 'k' => some (Raw.ofNat (blockCount v.facts.entry / 2))
  | 't' | 'a' | 'c' => some (Calendar.format v.facts.time 64 (raw "%a %b %e %H:%M:%S.%N0 %Y"))
  | _ => none

/-- The characters that letters behind a backslash stand for. -/
def escapes : List (Char × Nat) :=
  [('a', 7), ('b', 8), ('f', 12), ('n', 10), ('r', 13), ('t', 9), ('v', 11), ('\\', 92)]

/-- Prints what is known of a file in a format; `fuel` bounds its length. -/
def printFormat (v : Visit) : (fuel : Nat) → Raw → Step Unit
  | 0, _ | _, [] => return
  | fuel + 1, '\\' :: c :: rest => do
      let digits := ((c :: rest).take 3).takeWhile fun d => (Raw.digit? 8 d).isSome
      if !digits.isEmpty then
        Step.printLater [Raw.byte ((Raw.inBase? 8 digits).getD 0)]
        printFormat v fuel ((c :: rest).drop digits.length)
      else
        match escapes.lookup c with
        | some n => Step.printLater [Raw.byte n]; printFormat v fuel rest
        | none =>
            if c = 'c' then Step.flush
            else
              Step.complain (raw "warning: unrecognized escape " ++ marked ['\\', c])
              Step.printLater ['\\', c]
              printFormat v fuel rest
  | fuel + 1, '%' :: rest => do
      let flags := rest.takeWhile fun c => "-+ #0".toList.contains c
      let behind := rest.drop flags.length
      let digits := behind.takeWhile Char.isDigit
      match behind.drop digits.length with
      | '%' :: more => Step.printLater ['%']; printFormat v fuel more
      | c :: more =>
          let (text?, more) := match c, more with
            | 'T', '@' :: more =>
                (some (Raw.ofInt (v.facts.time.fdiv 1000000000) ++ '.' ::
                  Raw.padLeft 9 (Raw.ofNat (v.facts.time.fmod 1000000000).toNat) '0' ++ ['0']), more)
            | 'T', k :: more => (some (Calendar.format v.facts.time 64 ['%', k]), more)
            | c, more => (directive v c, more)
          match text? with
          | some text =>
              let width := (Raw.digits? digits).getD 0
              Step.printLater (if flags.contains '-' then Raw.padRight width text ' '
                else Raw.padLeft width text ' ')
              printFormat v fuel more
          | none =>
              Step.complain (raw "warning: unrecognized format directive " ++ marked ['%', c])
              Step.printLater ('%' :: flags ++ digits ++ [c])
              printFormat v fuel more
      | [] => Step.printLater ['%']
  | fuel + 1, c :: rest => do
      Step.printLater [c]
      printFormat v fuel rest

/-- A word with a path in place of each pair of braces; `fuel` bounds its length. -/
def filled (path : Raw) : (fuel : Nat) → Raw → Raw
  | 0, word => word
  | _, [] => []
  | fuel + 1, '\x7b' :: '\x7d' :: rest => path ++ filled path fuel rest
  | fuel + 1, c :: rest => c :: filled path fuel rest

/-- Runs a command and says whether it succeeded. -/
def runCommand (launch : Launcher) (inside : Option Raw) (words : List Raw) : Step Bool := do
  Step.flush
  let name := words.headD []
  match ← Step.find name words with
  | .error e =>
      Step.complain (NameQuoted.always name ++ raw ": " ++ raw e.strerror)
      return false
  | .ok program =>
      let ending ← Step.fork do
        match inside with
        | some directory =>
            match ← Step.look fun fs cwd => fs.locate cwd directory.path with
            | .ok place => modify fun p => { p with cwd := place }
            | .error _ => pure ()
        | none => pure ()
        Step.become launch program
      return ending == .exited 0

/-- The line of a listing for a file. -/
def listed (v : Visit) : Step Raw := do
  let f := v.facts
  let now := (← Step.files).now
  let tail := match f.entry with
    | .link target => raw " -> " ++ Raw.ofString target
    | _ => []
  return Raw.padLeft 9 (Raw.ofNat f.number) ' ' ++ ' ' ::
    Raw.padLeft 6 (Raw.ofNat (blockCount f.entry / 2)) ' ' ++ ' ' ::
    kindLetter f.entry :: modeLetters f.entry.mode ++ ' ' ::
    Raw.padLeft 3 (Raw.ofNat f.links) ' ' ++ raw " root     root     " ++
    Raw.padLeft 8 (Raw.ofNat f.entry.size) ' ' ++ ' ' :: Listed.timeText now f.time ++ ' ' ::
    v.path ++ tail ++ ['\n']

/-- Does something with a file. -/
def perform (launch : Launcher) (v : Visit) : Action → Searching Bool
  | .print ending => do
      Step.printLater (v.path ++ [ending])
      return true
  | .format text => do
      printFormat v (text.length + 1) text
      return true
  | .list => do
      Step.printLater (← listed v)
      return true
  | .run inDirectory words => do
      let path := if inDirectory then raw "./" ++ v.name else v.path
      let place := if inDirectory then some v.directory else none
      runCommand launch place (words.map fun w => filled path (w.length + 1) w)
  | .runTogether number words => do
      modify fun s =>
        let before := match s.waiting.lookup number with
          | some (_, paths) => paths
          | none => []
        { s with
          waiting := (number, words, v.path :: before) :: s.waiting.filter (·.1 ≠ number) }
      return true
  | .remove => do
      if v.path = ['.'] then return true
      else
        let removed ← Step.change fun fs cwd =>
          if v.facts.entry.isDirectory then fs.removeDirectory cwd v.path.path
          else fs.unlink cwd v.path.path
        match removed with
        | .ok () => return true
        | .error e =>
            Step.complain (raw "cannot delete " ++ NameQuoted.always v.path ++ raw ": " ++
              raw e.strerror)
            modify fun s => { s with status := 1 }
            return false
  | .prune => do
      modify fun s => { s with pruned := true }
      return true
  | .quit => do
      runWaiting
      Step.flush
      Step.exit (← get).status
where
  /-- Runs the commands that wait for more files. -/
  runWaiting : Searching Unit := do
    for (_, words, paths) in (← get).waiting.reverse do
      let succeeded ← runCommand launch none (words ++ paths.reverse)
      if !succeeded then modify fun s => { s with status := 1 }
    modify fun s => { s with waiting := [] }

/-- Evaluates an expression for a file. -/
def evaluate (launch : Launcher) (v : Visit) : Expr → Searching Bool
  | .ask q => answer v q
  | .act a => perform launch v a
  | .not e => do return !(← evaluate launch v e)
  | .both a b => do
      match ← evaluate launch v a with
      | true => evaluate launch v b
      | false => return false
  | .either a b => do
      match ← evaluate launch v a with
      | true => return true
      | false => evaluate launch v b
  | .inTurn a b => do
      let _ ← evaluate launch v a
      evaluate launch v b

/-- Goes through a file and what is below it; `fuel` bounds the depth. -/
def walk (launch : Launcher) (e : Expr) (l : Limits) (f : Following) (start : Raw) :
    (fuel depth : Nat) → Raw → Searching Unit
  | 0, _, _ => return
  | fuel + 1, depth, path => do
      let follows := f = .all ∨ (f = .named ∧ depth = 0)
      let found ← do
        match ← factsOf follows path with
        | .ok facts => pure (.ok facts)
        | .error e => if follows then factsOf false path else pure (.error e)
      match found with
      | .error e => failed path e
      | .ok facts =>
          let v : Visit := ⟨start, path, depth, facts⟩
          modify fun s => { s with pruned := false }
          let visit : Searching Unit := do
            if l.least ≤ depth then let _ ← evaluate launch v e
          if !l.inside then visit
          let deeper := l.most.all fun most => depth < most
          if facts.entry.isDirectory && deeper && !((← get).pruned && !l.inside) then
            match ← Step.look fun fs cwd => do fs.list (← fs.locate cwd path.path) with
            | .error e => failed path e
            | .ok names =>
                for name in names do
                  walk launch e l f start fuel (depth + 1) (within path (Raw.ofString name))
          if l.inside then visit

/-- Finds files. -/
def find (launch : Launcher) (words : List Raw) : Step Nat := runPlain 1 do
  let options := words.tail.takeWhile fun w =>
    [raw "-H", raw "-L", raw "-P"].contains w || w.take 2 == raw "-O"
  let following := match (options.filter (·.take 2 ≠ raw "-O")).getLast? with
    | some ['-', 'L'] => Following.all
    | some ['-', 'H'] => .named
    | _ => .none
  let rest := words.tail.drop options.length
  let isPath := fun (w : Raw) => !((w.head? = some '-' && 1 < w.length) || w == ['('] || w == ['!'])
  let starts := rest.takeWhile isPath
  let (e, l) ← read (rest.drop starts.length)
  let starts := if starts.isEmpty then [['.']] else starts
  let search : Searching Unit := do
    for start in starts do
      walk launch e l following start 4096 0 start
    perform.runWaiting launch
  let (_, s) ← search.run ⟨0, false, []⟩
  return s.status

end Bootstrap.Utility.Find
