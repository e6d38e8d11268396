import Bootstrap.Text.Regex.Match

/-!
# Scripts of the stream editor

A script is a list of commands.  A command has a letter, and in front of it the
addresses of the lines on which it acts: none, one, or the two ends of a range.  Blocks
of commands stand between braces; the braces are commands too.
-/

namespace Bootstrap.Editor

/-- An address of lines. -/
inductive Address where
  | line (n : Nat)
  | last
  /-- The lines that an expression matches; without one it is the expression used last. -/
  | holding (m : Option Matcher)
  /-- A line, and every so many-th behind it. -/
  | every (first step : Nat)

/-- Where a range of lines ends. -/
inductive RangeEnd where
  | address (a : Address)
  /-- So many lines further. -/
  | further (n : Nat)
  /-- At a line whose number is a multiple. -/
  | multiple (n : Nat)

/-- The lines on which a command acts. -/
structure Selection where
  first : Option Address
  stop : Option RangeEnd
  negated : Bool

/-- What becomes of the letters that follow in a replacement. -/
inductive LetterCase where
  | upper
  | lower
  | upperNext
  | lowerNext
  | plain
  deriving DecidableEq, Repr

/-- A part of a replacement. -/
inductive Piece where
  | text (t : Raw)
  | group (n : Nat)
  | letters (c : LetterCase)
  deriving DecidableEq, Repr

/-- A replacement of matches. -/
structure Substitution where
  pattern : Option Matcher
  replacement : List Piece
  /-- The first match that is replaced, counted from one. -/
  number : Nat
  everywhere : Bool
  prints : Bool
  file : Option Raw

/-- When a jump is made. -/
inductive JumpKind where
  | always
  | ifReplaced
  | unlessReplaced
  deriving DecidableEq, Repr

/-- What a command does. -/
inductive Action where
  | opens
  | closes
  | label (name : Raw)
  | jump (kind : JumpKind) (label : Raw)
  | append (text : Raw)
  | insert (text : Raw)
  | change (text : Raw)
  | delete
  | deleteLine
  | print
  | printLine
  | printNumber
  /-- In lines of a length, if it is said which. -/
  | printEscaped (length : Option Nat)
  | printName
  | next
  | appendNext
  | hold
  | appendHold
  | get
  | appendGet
  | exchange
  | clear
  | readFile (name : Raw)
  | readLine (name : Raw)
  | writeFile (name : Raw)
  | writeLine (name : Raw)
  | quit (status : Nat) (prints : Bool)
  | substitute (s : Substitution)
  | translate (given wanted : Raw)

/-- A command. -/
structure Command where
  selection : Selection
  action : Action

/-! ## Reading -/

/-- What is wrong with a script. -/
inductive Fault where
  /-- Something behind so many characters. -/
  | place (taken : Nat) (text : Raw)
  /-- A block that is opened behind so many characters and never closed. -/
  | unclosed (taken : Nat)
  /-- Something that is wrong wherever it stands. -/
  | anywhere (text : Raw)
  deriving DecidableEq, Repr

/-- What is left of a script, and how many characters were read. -/
structure Reading where
  rest : Raw
  taken : Nat
  /-- The places of the blocks that are open, the innermost first. -/
  opened : List Nat
  isExtended : Bool

/-- A step that reads a script. -/
abbrev Reader := StateT Reading (Except Fault)

namespace Reader

/-- Takes so many characters. -/
def skip (n : Nat) : Reader Unit :=
  modify fun r => { r with rest := r.rest.drop n, taken := r.taken + n }

/-- Reports what is wrong at this place. -/
def wrong {α : Type} (text : String) : Reader α := do throw (.place (← get).taken (raw text))

/-- Takes characters as long as they are of a kind. -/
def takeWhile (p : Char → Bool) : Reader Raw := do
  let found := (← get).rest.takeWhile p
  skip found.length
  return found

/-- Takes blanks. -/
def blanks : Reader Unit := do
  let _ ← takeWhile fun c => Raw.isBlank c && c != '\n'

/-- The character in front. -/
def front? : Reader (Option Char) := return (← get).rest.head?

/-- Takes a number. -/
def number : Reader Nat := do return (Raw.digits? (← takeWhile Char.isDigit)).getD 0

/-- The character that a letter behind a backslash stands for, if it is one of those that stand for
the same everywhere. -/
def control? : Char → Option Char
  | 'a' => some (Char.ofNat 7)
  | 'f' => some (Char.ofNat 12)
  | 'n' => some '\n'
  | 'r' => some '\r'
  | 't' => some '\t'
  | 'v' => some (Char.ofNat 11)
  | _ => none

/-- The character that a letter and what follows it write behind a backslash, by its number or as a
control character, and what follows it. -/
def numbered? (letter : Char) (rest : Raw) : Option (Char × Raw) :=
  let number := fun (base length : Nat) =>
    let digits := (rest.take length).takeWhile fun c => (Raw.digit? base c).isSome
    (Raw.inBase? base digits).map fun n => (Raw.byte n, rest.drop digits.length)
  match letter with
  | 'x' => number 16 2
  | 'o' => number 8 3
  | 'd' => number 10 3
  | 'c' =>
      match rest with
      | c :: rest => some (Char.ofNat (c.toUpper.toNat ^^^ 64), rest)
      | [] => none
  | _ => none

/-- The character that a letter and what follows it stand for behind a backslash, and what follows
it. -/
def special? (letter : Char) (rest : Raw) : Option (Char × Raw) :=
  match control? letter with
  | some c => some (c, rest)
  | none => numbered? letter rest

/-- The text of a bracket behind its opening mark, and what follows it.  Inside, `name` is the mark
that ends the name of a class; a backslash is a character, but in front of `n`. -/
def bracket? : (name : Option Char) → Raw → Option (Raw × Raw)
  | _, [] | _, '\n' :: _ => none
  | none, ']' :: rest => some ([']'], rest)
  | none, '\\' :: 'n' :: rest => behind ['\n'] (bracket? none rest)
  | none, '[' :: ':' :: rest => behind ['[', ':'] (bracket? (some ':') rest)
  | none, '[' :: '.' :: rest => behind ['[', '.'] (bracket? (some '.') rest)
  | none, '[' :: '=' :: rest => behind ['[', '='] (bracket? (some '=') rest)
  | none, c :: rest => behind [c] (bracket? none rest)
  | some m, c :: rest =>
      behind [c] (bracket? (if m = ']' then none
        else if c = m ∧ rest.head? = some ']' then some ']' else some m) rest)
where
  /-- Puts a text in front of what was found. -/
  behind (text : Raw) (found : Option (Raw × Raw)) : Option (Raw × Raw) :=
    found.map fun (inner, rest) => (text ++ inner, rest)

/-- The text up to a delimiter, which stands for itself behind a backslash.  In an expression a
delimiter may stand in a bracket.  A line ends only behind a backslash. -/
def delimited? (delimiter : Char) (isPattern : Bool) : (fuel : Nat) → Raw → Option (Raw × Raw)
  | 0, _ | _, [] | _, '\n' :: _ | _, ['\\'] => none
  | fuel + 1, '\\' :: c :: rest =>
      let taken : Raw :=
        if c = delimiter ∧ (isPattern ∨ c ≠ '&') then [c]
        else if isPattern ∧ c = 'n' then ['\n']
        else if c = '\n' ∧ isPattern then [c]
        else ['\\', c]
      (delimited? delimiter isPattern fuel rest).map fun (text, rest) => (taken ++ text, rest)
  | fuel + 1, c :: rest =>
      if c = delimiter then some ([], rest)
      else if isPattern ∧ c = '[' then do
        let front : Raw := match rest with
          | '^' :: ']' :: _ => ['^', ']']
          | '^' :: _ => ['^']
          | ']' :: _ => [']']
          | _ => []
        let (inner, rest) ← bracket? none (rest.drop front.length)
        let (text, rest) ← delimited? delimiter isPattern fuel rest
        return (c :: front ++ inner ++ text, rest)
      else (delimited? delimiter isPattern fuel rest).map fun (text, rest) => (c :: text, rest)

/-- Takes a text up to a delimiter. -/
def delimited (delimiter : Char) (isPattern : Bool) (fault : String) : Reader Raw := do
  let r ← get
  match delimited? delimiter isPattern (r.rest.length + 1) r.rest with
  | some (text, rest) =>
      skip (r.rest.length - rest.length)
      return text
  | none =>
      skip (lineLength r.rest)
      wrong fault
where
  /-- How many characters stand in front of the end of the line, a backslash and what follows it
  aside. -/
  lineLength : Raw → Nat
    | [] | '\n' :: _ => 0
    | '\\' :: _ :: rest => lineLength rest + 2
    | _ :: rest => lineLength rest + 1

/-- The expression with characters in place of the escapes that stand for them; `fuel` bounds the
number of characters. -/
def plainEscapes : (fuel : Nat) → Raw → Raw
  | 0, _ | _, [] => []
  | fuel + 1, '\\' :: c :: rest =>
      match special? c rest with
      | some (d, rest) => d :: plainEscapes fuel rest
      | none => '\\' :: c :: plainEscapes fuel rest
  | fuel + 1, c :: rest => c :: plainEscapes fuel rest

/-- The way in which expressions are written. -/
def dialect (isExtended : Bool) : Regex.Dialect :=
  { bareGroups := isExtended, bareSigns := isExtended, isStrict := true, refusesBareClasses := true }

/-- The matcher that a text writes; an empty one means the expression used last. -/
def matcher (text : Raw) (folds byLine : Bool) : Reader (Option Matcher) := do
  if text.isEmpty then return none
  else
    match Matcher.ofText (dialect (← get).isExtended) folds byLine
        (plainEscapes (text.length + 1) text) with
    | .ok m => return some m
    | .error .bareClass => throw (.anywhere (raw Regex.Fault.bareClass.message))
    | .error fault => wrong fault.message

/-- Takes the flags behind an expression in an address. -/
def patternFlags : Reader (Bool × Bool) := do
  let flags ← takeWhile fun c => c == 'I' || c == 'M'
  return (flags.contains 'I', flags.contains 'M')

/-- Takes an address. -/
def address? : Reader (Option Address) := do
  match ← front? with
  | some '$' => skip 1; return some .last
  | some '/' =>
      skip 1
      expression '/'
  | some '\\' =>
      skip 1
      match ← front? with
      | some d => skip 1; expression d
      | none => wrong "unterminated address regex"
  | some c =>
      if !c.isDigit then return none
      else
        let n ← number
        if (← front?) = some '~' then
          skip 1
          return some (.every n (← number))
        else return some (.line n)
  | none => return none
where
  /-- Takes an expression as an address. -/
  expression (delimiter : Char) : Reader (Option Address) := do
    let text ← delimited delimiter true "unterminated address regex"
    let (folds, byLine) ← patternFlags
    return some (.holding (← matcher text folds byLine))

/-- Takes the end of a range. -/
def rangeEnd : Reader RangeEnd := do
  blanks
  match ← front? with
  | some '+' => skip 1; return .further (← number)
  | some '~' => skip 1; return .multiple (← number)
  | _ =>
      match ← address? with
      | some a => return .address a
      | none =>
          if (← front?).isSome then skip 1
          wrong "unexpected \x60,'"

/-- Takes the addresses of a command. -/
def selection : Reader Selection := do
  match ← front? with
  | some '+' | some '~' =>
      skip 2
      wrong "invalid usage of +N or ~N as first address"
  | _ => pure ()
  let first ← address?
  blanks
  let stop ← if first.isSome && (← front?) = some ',' then do
      skip 1
      pure (some (← rangeEnd))
    else pure none
  blanks
  match first, stop with
  | some (.line 0), some (.address (.holding _)) => pure ()
  | some (.line 0), _ =>
      if (← front?).isSome then skip 1
      wrong "invalid usage of line address 0"
  | _, _ => pure ()
  let isNegated := (← front?) = some '!'
  if isNegated then
    skip 1
    blanks
    if (← front?) = some '!' then
      skip 1
      wrong "multiple \x60!'s"
  return ⟨first, stop, isNegated⟩

/-- Takes what ends a command. -/
def ending : Reader Unit := do
  blanks
  match ← front? with
  | none | some '}' | some '#' => pure ()
  | some c =>
      if c = ';' ∨ c = '\n' then skip 1
      else
        skip 1
        wrong "extra characters after command"

/-- The lines of a text to be added: a backslash in front of a line end keeps it. -/
def textLines : (fuel : Nat) → Raw → Raw × Raw
  | 0, rest => ([], rest)
  | _, [] => ([], [])
  | fuel + 1, '\\' :: c :: rest =>
      let (c, rest) := (special? c rest).getD (c, rest)
      let (text, rest) := textLines fuel rest
      (c :: text, rest)
  | _ + 1, ['\\'] => ([], [])
  | _ + 1, '\n' :: rest => ([], rest)
  | fuel + 1, c :: rest =>
      let (text, rest) := textLines fuel rest
      (c :: text, rest)

/-- Takes the text of a command that adds it. -/
def addedText : Reader Raw := do
  blanks
  match (← get).rest with
  | [] => wrong "expected \\ after \x60a', \x60c' or \x60i'"
  | '\\' :: rest =>
      skip 1
      let inner := rest.takeWhile fun c => c == ' ' || c == '\t'
      match rest.drop inner.length with
      | '\n' :: _ =>
          skip (inner.length + 1)
          lines
      | _ =>
          skip inner.length
          match (← get).rest with
          | [] => return []
          | c :: _ =>
              skip 1
              return inner ++ c :: (← lines)
  | _ => lines
where
  /-- Takes lines up to one that ends. -/
  lines : Reader Raw := do
    let before := (← get).rest
    let (text, rest) := textLines (before.length + 1) before
    skip (before.length - rest.length)
    return text ++ ['\n']

/-- Takes the rest of a line. -/
def restOfLine : Reader Raw := do
  blanks
  let text ← takeWhile (· != '\n')
  skip 1
  return text

/-- Takes the name of a file. -/
def fileName : Reader Raw := do
  let name ← restOfLine
  if name.isEmpty then wrong "missing filename in r/R/w/W commands" else return name

/-- Takes the name of a label. -/
def labelName : Reader Raw := do
  blanks
  takeWhile fun c => !Raw.isBlank c && c != ';' && c != '}' && c != '#'

/-- The pieces of a replacement; `fuel` bounds their number. -/
def pieces : (fuel : Nat) → Raw → List Piece
  | 0, _ | _, [] => []
  | fuel + 1, '\\' :: c :: rest =>
      if c.isDigit then .group (c.toNat - 48) :: pieces fuel rest
      else
        match c with
        | 'U' => .letters .upper :: pieces fuel rest
        | 'L' => .letters .lower :: pieces fuel rest
        | 'u' => .letters .upperNext :: pieces fuel rest
        | 'l' => .letters .lowerNext :: pieces fuel rest
        | 'E' => .letters .plain :: pieces fuel rest
        | _ =>
            let (d, rest) := (special? c rest).getD (c, rest)
            .text [d] :: pieces fuel rest
  | fuel + 1, '&' :: rest => .group 0 :: pieces fuel rest
  | fuel + 1, c :: rest => .text [c] :: pieces fuel rest

/-- The flags of a substitution. -/
structure Flags where
  number : Option Nat
  everywhere : Bool
  prints : Bool
  folds : Bool
  byLine : Bool
  file : Option Raw

/-- Takes the flags of a substitution; `fuel` bounds their number. -/
def flags : (fuel : Nat) → Flags → Reader Flags
  | 0, f => return f
  | fuel + 1, f => do
      match ← front? with
      | some 'g' =>
          skip 1
          if f.everywhere then wrong "multiple \x60g' options to \x60s' command"
          else flags fuel { f with everywhere := true }
      | some 'p' =>
          skip 1
          if f.prints then wrong "multiple \x60p' options to \x60s' command"
          else flags fuel { f with prints := true }
      | some 'i' | some 'I' => skip 1; flags fuel { f with folds := true }
      | some 'm' | some 'M' => skip 1; flags fuel { f with byLine := true }
      | some 'w' =>
          skip 1
          return { f with file := some (← fileName) }
      | some c =>
          if c.isDigit then
            let n ← number
            if n = 0 then wrong "number option to \x60s' command may not be zero"
            else if f.number.isSome then wrong "multiple number options to \x60s' command"
            else flags fuel { f with number := some n }
          else if c = '}' ∨ c = '#' ∨ c = ';' ∨ c = '\n' then return f
          else if Raw.isBlank c then
            skip 1
            flags fuel f
          else
            skip 1
            wrong "unknown option to \x60s'"
      | none => return f

/-- Takes a substitution behind its letter. -/
def substitution : Reader Action := do
  match ← front? with
  | none => wrong "unterminated \x60s' command"
  | some d =>
      skip 1
      let pattern ← delimited d true "unterminated \x60s' command"
      let replacement ← delimited d false "unterminated \x60s' command"
      let f ← flags 64 ⟨none, false, false, false, false, none⟩
      let m ← matcher pattern f.folds f.byLine
      let parts := pieces (replacement.length + 1) replacement
      let groups := parts.filterMap fun p => match p with
        | .group n => some n
        | _ => none
      match m with
      | some found =>
          match groups.find? (found.groups < ·) with
          | some n => wrong ("invalid reference \\" ++ toString n ++ " on \x60s' command's RHS")
          | none => pure ()
      | none => pure ()
      if f.file.isNone then ending
      return .substitute ⟨m, parts, f.number.getD 1, f.everywhere, f.prints, f.file⟩

/-- The characters of a side of a translation. -/
def translated : Raw → Raw
  | '\\' :: c :: rest => (if c = 'n' then '\n' else c) :: translated rest
  | c :: rest => c :: translated rest
  | [] => []

/-- Takes a translation behind its letter. -/
def translation : Reader Action := do
  match ← front? with
  | none => wrong "unterminated \x60y' command"
  | some d =>
      skip 1
      let x ← delimited d false "unterminated \x60y' command"
      let y ← delimited d false "unterminated \x60y' command"
      let (x, y) := (translated x, translated y)
      if x.length ≠ y.length then wrong "strings for \x60y' command are different lengths"
      else
        ending
        return .translate x y

/-- Takes a status that may stand behind a letter. -/
def status : Reader Nat := do
  blanks
  let n ← number
  ending
  return n

/-- Takes what follows the letter of a command. -/
def action (letter : Char) (s : Selection) : Reader (Option Action) := do
  let plain := fun (a : Action) => do
    ending
    return some a
  match letter with
  | '#' =>
      if s.first.isSome then wrong "comments don't accept any addresses"
      else
        let _ ← takeWhile (· != '\n')
        return none
  | '{' =>
      modify fun r => { r with opened := r.taken :: r.opened }
      return some .opens
  | '}' =>
      if (← get).opened.isEmpty then wrong "unexpected \x60\x7d'"
      else if s.first.isSome then wrong "\x7d doesn't want any addresses"
      else
        modify fun r => { r with opened := r.opened.tail }
        plain .closes
  | ':' =>
      if s.first.isSome then wrong ": doesn't want any addresses"
      else
        let name ← labelName
        if name.isEmpty then wrong "\":\" lacks a label" else return some (.label name)
  | 'b' => return some (.jump .always (← labelName))
  | 't' => return some (.jump .ifReplaced (← labelName))
  | 'T' => return some (.jump .unlessReplaced (← labelName))
  | 'a' => return some (.append (← addedText))
  | 'i' => return some (.insert (← addedText))
  | 'c' => return some (.change (← addedText))
  | 'd' => plain .delete
  | 'D' => plain .deleteLine
  | 'p' => plain .print
  | 'P' => plain .printLine
  | '=' => plain .printNumber
  | 'l' =>
      blanks
      let digits ← takeWhile Char.isDigit
      ending
      return some (.printEscaped (Raw.digits? digits))
  | 'F' => plain .printName
  | 'n' => plain .next
  | 'N' => plain .appendNext
  | 'h' => plain .hold
  | 'H' => plain .appendHold
  | 'g' => plain .get
  | 'G' => plain .appendGet
  | 'x' => plain .exchange
  | 'z' => plain .clear
  | 'v' =>
      let _ ← restOfLine
      return none
  | 'q' | 'Q' =>
      if s.stop.isSome then wrong "command only uses one address"
      else return some (.quit (← status) (letter == 'q'))
  | 'r' => return some (.readFile (← fileName))
  | 'R' => return some (.readLine (← fileName))
  | 'w' => return some (.writeFile (← fileName))
  | 'W' => return some (.writeLine (← fileName))
  | 's' => return some (← substitution)
  | 'y' => return some (← translation)
  | c => wrong ("unknown command: \x60" ++ String.ofList [c] ++ "'")

/-- Takes the commands of a script; `fuel` bounds their number. -/
def commands : (fuel : Nat) → Reader (List Command)
  | 0 => return []
  | fuel + 1 => do
      let _ ← takeWhile fun c => Raw.isBlank c || c == ';'
      if (← get).rest.isEmpty then return []
      else
        let s ← selection
        match ← front? with
        | none => wrong "missing command"
        | some c =>
            skip 1
            match ← action c s with
            | some a => return ⟨s, a⟩ :: (← commands fuel)
            | none => commands fuel

end Reader

/-- A script. -/
abbrev Script := Array Command

/-- Reads a script. -/
def Script.ofText (isExtended : Bool) (text : Raw) : Except Fault Script := do
  let (found, r) ← (Reader.commands (text.length + 1)).run ⟨text, 0, [], isExtended⟩
  match r.opened with
  | [] => return found.toArray
  | place :: _ => throw (.unclosed place)

/-- The label of a jump that leads nowhere. -/
def Script.missingLabel? (s : Script) : Option Raw :=
  s.toList.findSome? fun c =>
    match c.action with
    | .jump _ name =>
        let isThere := s.any fun d => match d.action with
          | .label other => other == name
          | _ => false
        if name.isEmpty || isThere then none else some name
    | _ => none

end Bootstrap.Editor
