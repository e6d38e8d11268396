import Bootstrap.Utility.Editor.Script
import Bootstrap.Utility.Arguments

/-!
# Running scripts of the stream editor

The editor takes line by line into its pattern space, lets the commands of the script
act on it, and prints it.  Text that commands add behind a line is printed after it.
A last line without an end is printed without one.
-/

namespace Bootstrap.Editor

open Machine

/-- A line, and whether it has an end. -/
structure InputLine where
  text : Raw
  isEnded : Bool

/-- An input: its name and the lines of it that were not taken yet. -/
structure InputFile where
  name : Raw
  lines : List InputLine

/-- How the editor works. -/
structure Manner where
  quiet : Bool
  separate : Bool
  /-- Whether files are changed in place, and what is put behind the names of their copies. -/
  inPlace : Option Raw
  ending : Char
  /-- The length of lines in which all characters can be seen. -/
  lineLength : Nat
  script : Script

/-- Where the lines of a selection stand in relation to the present one. -/
inductive RangeState where
  | closed
  /-- The range is open, up to this line if its end is a number. -/
  | reaching (line : Option Nat)
  deriving DecidableEq

/-- The editor at work. -/
structure Editing where
  pattern : Raw
  isEnded : Bool
  hold : Raw
  line : Nat
  file : Raw
  inputs : List InputFile
  ranges : List (Nat × RangeState)
  /-- What is printed behind the line, the latest first. -/
  behind : List Raw
  replaced : Bool
  /-- The expression used last. -/
  latest : Option Matcher
  /-- What is printed of a file that is changed in place, the latest first. -/
  output : List Raw
  /-- Whether what was printed last lacks its end. -/
  lacksEnd : Bool
  /-- The lines of files that are read line by line. -/
  readers : List (Raw × List Raw)

/-- A step of the editor. -/
abbrev Act := StateT Editing Step

/-- How the commands of a script end for a line. -/
inductive Flow where
  | goOn
  /-- The pattern space is not printed. -/
  | dropped
  /-- The script begins anew with what is left. -/
  | again
  | quit (status : Nat) (prints : Bool)

/-- Prints a text as it is. -/
def put (m : Manner) (text : Raw) : Act Unit := do
  if m.inPlace.isSome then modify fun e => { e with output := text :: e.output }
  else Step.printLater text

/-- Prints a text, behind the end that what was printed last lacks. -/
def emit (m : Manner) (text : Raw) : Act Unit := do
  if (← get).lacksEnd then
    put m [m.ending]
    modify fun e => { e with lacksEnd := false }
  put m text

/-- Prints a line; without an end if it has none. -/
def emitLine (m : Manner) (text : Raw) (isEnded : Bool) : Act Unit := do
  emit m text
  if isEnded then put m [m.ending] else modify fun e => { e with lacksEnd := true }

/-- Writes a line to a file of the script, behind what is there. -/
def writeLine (m : Manner) (name text : Raw) : Act Unit := do
  if name = raw "/dev/stdout" then emitLine m text true
  else
    let _ ← Step.writeFile name .atEnd (text ++ ['\n'])

/-- Whether the present line is the last one. -/
def isLast (m : Manner) : Act Bool := do
  let inputs := (← get).inputs
  return if m.separate then (inputs.headD ⟨[], []⟩).lines.isEmpty
    else inputs.all fun f => f.lines.isEmpty

/-- The matcher of an expression, which is then the one used last. -/
def matcherOf (m : Option Matcher) : Act Matcher := do
  match m, (← get).latest with
  | some found, _ =>
      modify fun e => { e with latest := some found }
      return found
  | none, some found => return found
  | none, none =>
      Step.complain (raw "-e expression #1, char 0: no previous regular expression")
      Step.exit 1

/-- Whether an address means the present line. -/
def isAt (m : Manner) : Address → Act Bool
  | .line n => return (← get).line = n
  | .last => isLast m
  | .every first step => do
      let n := (← get).line
      return if step = 0 then n = first else first ≤ n && (n - first) % step == 0
  | .holding p => do
      let found ← matcherOf p
      return (found.find? (← get).pattern.toArray 0).isSome

/-- Sets the state of the range of a command. -/
def setRange (index : Nat) (s : RangeState) : Act Unit :=
  modify fun e => { e with ranges := (index, s) :: e.ranges.filter (·.1 ≠ index) }

/-- Whether the range of a command begins or has begun. -/
def inRange (m : Manner) (index : Nat) (first : Address) (stop : RangeEnd) : Act Bool := do
  let n := (← get).line
  let state := ((← get).ranges.lookup index).getD
    (match first with
      | .line 0 => .reaching none
      | _ => .closed)
  let begin := do
    if !(← isAt m first) then return false
    else
      let open' := fun (last : Nat) => do
        if n < last then setRange index (.reaching (some last))
        return true
      match stop with
      | .address (.line k) => open' k
      | .further k => open' (n + k)
      | .multiple k => open' (if k = 0 then n else n / k * k + k)
      | .address _ =>
          setRange index (.reaching none)
          return true
  match state with
  | .closed => begin
  | .reaching (some last) =>
      if n < last then return true
      else
        setRange index .closed
        if n = last then return true else begin
  | .reaching none =>
      match stop with
      | .address a =>
          if ← isAt m a then setRange index .closed
          return true
      | _ => return true

/-- Whether a command acts on the present line. -/
def isSelected (m : Manner) (index : Nat) (s : Selection) : Act Bool := do
  let found ← match s.first, s.stop with
    | none, _ => pure true
    | some a, none => isAt m a
    | some a, some stop => inRange m index a stop
  return found != s.negated

/-- Ends the file that is changed in place. -/
def finishFile (m : Manner) : Act Unit := do
  match m.inPlace with
  | none => pure ()
  | some ending =>
      let e ← get
      if !e.file.isEmpty then
        if !ending.isEmpty then
          match ← Step.readFile e.file with
          | .ok old =>
              let kept := if ending.contains '*' then
                  ending.flatMap fun c => if c = '*' then e.file else [c]
                else e.file ++ ending
              let _ ← Step.writeFile kept .afresh old
          | .error _ => pure ()
        let _ ← Step.writeFile e.file .afresh e.output.reverse.flatten
        set { e with output := [], lacksEnd := false }

/-- Goes to the next line of the inputs, if there is one; `fuel` bounds the number of inputs. -/
def takeLine (m : Manner) : (fuel : Nat) → Act (Option InputLine)
  | 0 => return none
  | fuel + 1 => do
      match (← get).inputs with
      | [] => return none
      | f :: rest =>
          match f.lines with
          | l :: more =>
              modify fun e => { e with
                inputs := { f with lines := more } :: rest
                line := e.line + 1
                file := f.name }
              return some l
          | [] =>
              if rest.isEmpty then return none
              else
                if !f.name.isEmpty then finishFile m
                modify fun e => { e with
                  inputs := rest
                  file := (rest.headD ⟨[], []⟩).name
                  line := if m.separate then 0 else e.line }
                takeLine m fuel

/-- Prints what stands behind the line. -/
def printBehind (m : Manner) : Act Unit := do
  let texts := (← get).behind
  if !texts.isEmpty then
    modify fun e => { e with behind := [] }
    for text in texts.reverse do
      if !text.isEmpty then emit m text

/-- Has a text printed behind the line. -/
def addBehind (text : Raw) : Act Unit := modify fun e => { e with behind := text :: e.behind }

/-- Letters as a replacement asks for. -/
def cased (region : LetterCase) (next : Option LetterCase) (text : Raw) : Raw :=
  let body := match region with
    | .upper => Raw.upper text
    | .lower => Raw.lower text
    | _ => text
  match next, body with
  | some .upperNext, c :: rest => c.toUpper :: rest
  | some .lowerNext, c :: rest => c.toLower :: rest
  | _, _ => body

/-- The text of a replacement for a match. -/
def replacementText (pieces : List Piece) (groupText : Nat → Raw) : Raw :=
  (pieces.foldl (fun ((done, region, next) : List Raw × LetterCase × Option LetterCase) piece =>
    let add := fun (text : Raw) =>
      if text.isEmpty then (done, region, next) else (cased region next text :: done, region, none)
    match piece with
    | .text t => add t
    | .group n => add (groupText n)
    | .letters .upperNext => (done, region, some .upperNext)
    | .letters .lowerNext => (done, region, some .lowerNext)
    | .letters c => (done, c, next)) ([], .plain, none)).1.reverse.flatten

/-- Replaces matches from a position on: the pieces of the result, the latest first, and whether
something was replaced.  `count` is the number of the next match; a match without text directly
behind another is none.  `fuel` bounds the number of matches. -/
def substituteFrom (s : Substitution) (m : Matcher) (text : Array Char) :
    (fuel : Nat) → (count position : Nat) → (lastStop : Option Nat) → (done : List Raw) →
      (replaced : Bool) → List Raw × Bool
  | 0, _, position, _, done, replaced =>
      ((text.extract position text.size).toList :: done, replaced)
  | fuel + 1, count, position, lastStop, done, replaced =>
      let rest := (text.extract position text.size).toList
      match m.find? text position with
      | none => (rest :: done, replaced)
      | some found =>
          let (start, stop) := (found.start, found.stop)
          let before := (text.extract position start).toList
          let isVoid := start == stop && lastStop == some start
          let counted := if isVoid then count else count + 1
          let takes := !isVoid && (count == s.number || s.everywhere && s.number ≤ count)
          let piece := if takes then replacementText s.replacement (found.group text ·)
            else if isVoid then [] else (text.extract start stop).toList
          let done := piece :: before :: done
          if takes && !s.everywhere then
            ((text.extract stop text.size).toList :: done, true)
          else if start = stop then
            if text.size ≤ stop then (done, replaced || takes)
            else
              substituteFrom s m text fuel counted (stop + 1) (some stop)
                ((text.extract stop (stop + 1)).toList :: done) (replaced || takes)
          else substituteFrom s m text fuel counted stop (some stop) done (replaced || takes)

/-- A text in which all characters can be seen, in lines of a length if it is not zero. -/
def escapedText (length : Nat) (text : Raw) : Raw :=
  let shown := text.map fun c =>
    if c = '\\' then raw "\\\\"
    else if NameQuoted.isPrintable c then [c]
    else NameQuoted.escape c
  let (done, _) := shown.foldl (fun ((done, width) : List Raw × Nat) piece =>
    if 0 < length ∧ length - 1 < width + piece.length then (piece :: raw "\\\n" :: done, piece.length)
    else (piece :: done, width + piece.length)) ([], 0)
  done.reverse.flatten ++ ['$']

/-- The index behind the brace that closes a block; `depth` blocks are open. -/
def blockEnd (script : Script) : (fuel : Nat) → (index depth : Nat) → Nat
  | 0, index, _ => index
  | fuel + 1, index, depth =>
      match script[index]? with
      | none => index
      | some c =>
          match c.action with
          | .opens => blockEnd script fuel (index + 1) (depth + 1)
          | .closes => if depth = 1 then index + 1 else blockEnd script fuel (index + 1) (depth - 1)
          | _ => blockEnd script fuel (index + 1) depth

/-- The index of a label; without a name it is the end. -/
def labelIndex (script : Script) (name : Raw) : Nat :=
  if name.isEmpty then script.size
  else
    ((script.findIdx? fun c => match c.action with
      | .label other => other == name
      | _ => false).getD script.size)

/-- Runs the commands from an index on; `fuel` bounds the number of commands. -/
def perform (m : Manner) : (fuel : Nat) → (index : Nat) → Act Flow
  | 0, _ => throw .starved
  | fuel + 1, index => do
      match m.script[index]? with
      | none => return .goOn
      | some c =>
          let onward := perform m fuel (index + 1)
          if !(← isSelected m index c.selection) then
            match c.action with
            | .opens => perform m fuel (blockEnd m.script m.script.size (index + 1) 1)
            | _ => onward
          else
            let e ← get
            match c.action with
            | .opens | .closes | .label _ => onward
            | .jump kind name =>
                let goes := match kind with
                  | .always => true
                  | .ifReplaced => e.replaced
                  | .unlessReplaced => !e.replaced
                if kind ≠ .always then set { e with replaced := false }
                if goes then perform m fuel (labelIndex m.script name) else onward
            | .append text => addBehind text; onward
            | .insert text => emit m text; onward
            | .change text =>
                let isOpen := c.selection.stop.isSome && !c.selection.negated &&
                  ((← get).ranges.lookup index).any (· != .closed)
                if !isOpen then emit m text
                return .dropped
            | .delete => return .dropped
            | .deleteLine =>
                if e.pattern.contains '\n' then
                  set { e with pattern := (e.pattern.dropWhile (· ≠ '\n')).drop 1 }
                  return .again
                else return .dropped
            | .print => emitLine m e.pattern e.isEnded; onward
            | .printLine => emitLine m (e.pattern.takeWhile (· ≠ '\n')) true; onward
            | .printNumber => emit m (Raw.ofNat e.line ++ ['\n']); onward
            | .printEscaped length =>
                emit m (escapedText (length.getD m.lineLength) e.pattern ++ ['\n'])
                onward
            | .printName => emit m (e.file ++ ['\n']); onward
            | .next =>
                if ← isAtEnd then return .quit 0 true
                else
                  if !m.quiet then emitLine m e.pattern e.isEnded
                  printBehind m
                  let _ ← load m
                  onward
            | .appendNext =>
                if ← isAtEnd then return .quit 0 true
                else
                  printBehind m
                  let before := e.pattern
                  let _ ← load m
                  modify fun now => { now with pattern := before ++ '\n' :: now.pattern }
                  onward
            | .hold => set { e with hold := e.pattern }; onward
            | .appendHold => set { e with hold := e.hold ++ '\n' :: e.pattern }; onward
            | .get => set { e with pattern := e.hold }; onward
            | .appendGet => set { e with pattern := e.pattern ++ '\n' :: e.hold }; onward
            | .exchange => set { e with pattern := e.hold, hold := e.pattern }; onward
            | .clear => set { e with pattern := [] }; onward
            | .readFile name =>
                match ← Utility.input name with
                | .ok text => addBehind text
                | .error _ => pure ()
                onward
            | .readLine name =>
                let lines ← match e.readers.lookup name with
                  | some lines => pure lines
                  | none => do
                      match ← Utility.input name with
                      | .ok text => pure (Raw.lines text)
                      | .error _ => pure []
                match lines with
                | line :: _ => addBehind (line ++ ['\n'])
                | [] => pure ()
                modify fun e => { e with
                  readers := (name, lines.tail) :: e.readers.filter (·.1 ≠ name) }
                onward
            | .writeFile name => writeLine m name e.pattern; onward
            | .writeLine name => writeLine m name (e.pattern.takeWhile (· ≠ '\n')); onward
            | .quit status prints => return .quit status prints
            | .substitute s =>
                let found ← matcherOf s.pattern
                let subject := e.pattern.toArray
                let (pieces, replaced) :=
                  substituteFrom s found subject (subject.size + 2) 1 0 none [] false
                if replaced then
                  let after := pieces.reverse.flatten
                  modify fun e => { e with pattern := after, replaced := true }
                  if s.prints then emitLine m after e.isEnded
                  match s.file with
                  | some name => writeLine m name after
                  | none => pure ()
                onward
            | .translate given wanted =>
                let table := given.zip wanted
                set { e with pattern := e.pattern.map fun c => (table.lookup c).getD c }
                onward
where
  /-- Whether no line is left, in any input. -/
  isAtEnd : Act Bool := do
    let inputs := (← get).inputs
    return if m.separate then (inputs.headD ⟨[], []⟩).lines.isEmpty
      else inputs.all fun f => f.lines.isEmpty
  /-- Takes the next line into the pattern space. -/
  load (m : Manner) : Act Bool := do
    match ← takeLine m ((← get).inputs.length + 1) with
    | none => return false
    | some l =>
        modify fun e => { e with pattern := l.text, isEnded := l.isEnded }
        return true

/-- How many commands one line may take. -/
def commandLimit : Nat := 1000000

/-- Prints the pattern space and what stands behind it. -/
def finishLine (m : Manner) (prints : Bool) : Act Unit := do
  let e ← get
  if prints && !m.quiet then emitLine m e.pattern e.isEnded
  printBehind m

/-- Takes line by line; `fuel` bounds the number of lines, and `loads` says whether a new one is
taken. -/
def work (m : Manner) : (fuel : Nat) → (loads : Bool) → Act Nat
  | 0, _ => throw .starved
  | fuel + 1, loads => do
      let isThere ← if loads then do
          modify fun e => { e with replaced := false }
          perform.load m
        else pure true
      if !isThere then
        finishFile m
        return 0
      else
        match ← perform m commandLimit 0 with
        | .goOn => finishLine m true; work m fuel true
        | .dropped => finishLine m false; work m fuel true
        | .again => finishLine m false; work m fuel false
        | .quit status prints =>
            finishLine m prints
            if m.inPlace.isSome then
              let left := ((← get).inputs.headD ⟨[], []⟩).lines
              for l in left do
                emitLine m l.text l.isEnded
              finishFile m
            return status

/-- The lines of a text. -/
def inputLines (ending : Char) (text : Raw) : List InputLine :=
  (Raw.endedRecords ending text).map fun line =>
    if line.getLast? = some ending then ⟨line.dropLast, true⟩ else ⟨line, false⟩

end Bootstrap.Editor

namespace Bootstrap.Utility

open Machine

/-- How much the editor reads from a pipe at once. -/
def editorBlock : Nat := 4096

/-- The options of `sed`. -/
def editorOptions : Options :=
  ⟨"bsnrzuEe:f:l:i::V:hs",
    [("quiet", .none, "n"), ("silent", .none, "n"), ("expression", .required, "e"),
      ("file", .required, "f"), ("in-place", .optional, "i"), ("regexp-extended", .none, "E"),
      ("separate", .none, "s"), ("null-data", .none, "z"), ("unbuffered", .none, "u"),
      ("posix", .none, "posix"), ("sandbox", .none, "sandbox"), ("debug", .none, "debug"),
      ("line-length", .required, "l"), ("follow-symlinks", .none, "links")], false⟩

/-- Says how `sed` is started, and ends it. -/
def editorUsage {α : Type} : Step α := do
  Step.errorLine
    (raw "Usage: sed [OPTION]... \x7bscript-only-if-no-other-script\x7d [input-file]...")
  Step.exit 1

/-- Where a part of a script comes from. -/
inductive ScriptSource where
  /-- From the command line, by its number there. -/
  | expression (number : Nat)
  | file (name : Raw)

/-- The place in a script that is put together of parts, named by the part: a part of the command
line has characters, and a file has lines. -/
def scriptPlace (isBlock : Bool) : List (ScriptSource × Raw) → (taken : Nat) → Raw
  | [], _ => []
  | (source, text) :: rest, taken =>
      if text.length < taken ∧ !rest.isEmpty then scriptPlace isBlock rest (taken - text.length - 1)
      else
        match source with
        | .expression n =>
            raw "-e expression #" ++ Raw.ofNat n ++ raw ", char " ++
              Raw.ofNat (if isBlock then 0 else min taken text.length)
        | .file name =>
            raw "file " ++ name ++ raw " line " ++ Raw.ofNat (1 + (text.take taken).count '\n')

/-- Says what is wrong with a script, and ends the editor. -/
def editorFault {α : Type} (parts : List (ScriptSource × Raw)) : Editor.Fault → Step α
  | .place taken text => do
      Step.complain (scriptPlace false parts taken ++ raw ": " ++ text)
      Step.exit 1
  | .unclosed taken => do
      Step.complain (scriptPlace true parts taken ++ raw ": unmatched \x60\x7b'")
      Step.exit 1
  | .anywhere text => do
      Step.complain text
      Step.exit 4

/-- Edits its inputs line by line. -/
def sed (words : List Raw) : Step Nat := do
  let a ← match editorOptions.read words with
    | .ok a => pure a
    | .error text => Step.complain text; editorUsage
  let (parts, _) ← a.options.foldlM (fun (parts, count) (key, value) => do
    if key == "e" then return (parts ++ [(ScriptSource.expression (count + 1), value)], count + 1)
    else if key == "f" then
      match ← input value with
      | .ok text =>
          let inner := if text.getLast? = some '\n' then text.dropLast else text
          return (parts ++ [(ScriptSource.file value, inner)], count)
      | .error e =>
          Step.complain (raw "couldn't open file " ++ value ++ raw ": " ++ raw e.strerror)
          Step.exit 1
    else return (parts, count)) (([] : List (ScriptSource × Raw)), 0)
  let (parts, operands) ← match parts, a.operands with
    | [], [] => editorUsage
    | [], script :: rest => pure ([(ScriptSource.expression 1, script)], rest)
    | parts, operands => pure (parts, operands)
  let text := Raw.joined ['\n'] (parts.map Prod.snd)
  let quietMark := (raw "#n\n").isPrefixOf text || text == raw "#n"
  match Editor.Script.ofText (a.hasAny ["E", "r"]) text with
  | .error fault => editorFault parts fault
  | .ok script =>
      match script.missingLabel? with
      | some name =>
          Step.complain (raw "can't find label for jump to \x60" ++ name ++ ['\''])
          return 4
      | none =>
          for c in script do
            let target := match c.action with
              | .writeFile name | .writeLine name => some name
              | .substitute s => s.file
              | _ => none
            match target with
            | some name =>
                if name ≠ raw "/dev/stdout" then
                  match ← Step.writeFile name .afresh [] with
                  | .ok () => pure ()
                  | .error e =>
                      Step.complain (raw "couldn't open file " ++ name ++ raw ": " ++ raw e.strerror)
                      Step.exit 4
            | none => pure ()
          let ending := if a.has "z" then Raw.byte 0 else '\n'
          let m : Editor.Manner :=
            { quiet := a.has "n" || quietMark
              separate := a.hasAny ["s", "i"]
              inPlace := a.value? "i"
              ending := ending
              lineLength := ((a.value? "l").map fun t => (Raw.digits? t).getD 0).getD 70
              script := script }
          if operands.isEmpty ∧ m.inPlace.isSome then
            Step.complain (raw "no input files")
            Step.exit 4
          let names := if operands.isEmpty then [['-']] else operands
          let (files, status) ← names.foldlM (fun (files, status) name => do
            let fromInput := name = ['-'] && m.inPlace.isNone
            if m.inPlace.isSome && (← Step.isDirectory name) then
              Step.complain (raw "couldn't edit " ++ name ++ raw ": not a regular file")
              return (files, 4)
            else
              match ← if fromInput then Step.ahead 0 else Step.readFile name with
              | .ok text =>
                  let f : Editor.InputFile := ⟨name, Editor.inputLines ending text⟩
                  return (files ++ [f], status)
              | .error e =>
                  if isReadFault e then
                    Step.complain (raw "couldn't read " ++ name ++ raw ": " ++ raw e.strerror)
                  else Step.complain (raw "can't read " ++ name ++ raw ": " ++ raw e.strerror)
                  return (files, 2)) (([] : List Editor.InputFile), 0)
          let start : Editor.Editing :=
            { pattern := [], isEnded := true, hold := [], line := 0
              file := ((files.head?).map Editor.InputFile.name).getD []
              inputs := files, ranges := [], behind := [], replaced := false, latest := none
              output := [], lacksEnd := false, readers := [] }
          let lines := (files.flatMap Editor.InputFile.lines).length
          let (ended, e) ← (Editor.work m (1000 * lines + 1000) true).run start
          if m.inPlace.isNone ∧ names.contains ['-'] then
            let lengths := fun (inputs : List Editor.InputFile) =>
              ((inputs.filter fun f => f.name = ['-']).flatMap Editor.InputFile.lines).foldl
                (fun n l => n + l.text.length + if l.isEnded then 1 else 0) 0
            let (whole, rest) := (lengths files, lengths e.inputs)
            if rest = 0 then Step.skip 0 whole else takeInput editorBlock (whole - rest)
          return if ended = 0 then status else ended

end Bootstrap.Utility
