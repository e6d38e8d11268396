import Bootstrap.Shell.Job

/-!
# Variables and options

The builtin commands that give variables values, hand them on, protect, hide, remove
and list them, and those that deal with options and positional parameters.
-/

namespace Bootstrap.Shell.Builtin

open Machine

/-- Variables sorted by name. -/
def sortedVariables (s : Shell) : List (Raw × Variable) :=
  s.bindings.mergeSort fun a b => !b.1.precedes a.1

/-- Lists variables that satisfy `p`, behind a word. -/
def listVariables (word : Raw) (p : Variable → Bool) : Act Unit := do
  for (name, v) in sortedVariables (← get) do
    if p v then
      let value := match v.value with
        | some text => '=' :: listed text
        | none => []
      Act.printLine ((if word.isEmpty then [] else word ++ [' ']) ++ name ++ value)

/-- A name and, behind an equals sign, a value. -/
def nameAndValue (word : Raw) : Raw × Option Raw :=
  let name := word.takeWhile (· ≠ '=')
  match word.drop name.length with
  | _ :: value => (name, some value)
  | [] => (name, none)

/-- Marks variables, some of which get values, or lists those that are marked. -/
def mark (word : String) (isMarked : Variable → Bool) (one : Raw → Act Unit)
    (arguments : List Raw) : Act Nat := do
  let (letters, operands) ← Act.letters "p" arguments
  if operands.isEmpty ∨ letters.contains 'p' then listVariables (raw word) isMarked
  else
    for operand in operands do
      let (name, value) := nameAndValue operand
      match value with
      | some text => Act.assign name text
      | none => pure ()
      one name
  return 0

/-- Hands variables on to programs. -/
def exports : List Raw → Act Nat := mark "export" Variable.exported Act.exportName

/-- Protects variables. -/
def protects : List Raw → Act Nat := mark "readonly" Variable.isReadOnly Act.protect

/-- Hides variables until the present function ends. -/
def locals (arguments : List Raw) : Act Nat := do
  if (← get).kept.isEmpty then Act.fail (raw "not in a function")
  else
    for operand in arguments do
      if operand = ['-'] then
        Act.keep (.options (← get).options)
      else
        let (name, value) := nameAndValue operand
        Act.keepVariable name
        match value with
        | some text => Act.assign name text
        | none => pure ()
    return 0

/-- Removes variables or functions. -/
def unset (arguments : List Raw) : Act Nat := do
  let (letters, operands) ← Act.letters "vf" arguments
  for operand in operands do
    if letters.getLast? = some 'f' then
      modify fun s => { s with functions := s.functions.filter (·.1 ≠ operand) }
    else Act.unset operand
  return 0

/-- The options with their names and letters, in the order in which they are listed. -/
def optionNames : List (String × Option Char) :=
  [("errexit", 'e'), ("noglob", 'f'), ("ignoreeof", 'I'), ("interactive", 'i'), ("monitor", 'm'),
    ("noexec", 'n'), ("stdin", 's'), ("xtrace", 'x'), ("verbose", 'v'), ("vi", 'V'),
    ("emacs", 'E'), ("noclobber", 'C'), ("allexport", 'a'), ("notify", 'b'), ("nounset", 'u'),
    ("privileged", 'p'), ("nolog", none), ("debug", none)]

/-- The letters of the options that are on, the last listed first. -/
def lettersOn (options : List Char) : Raw :=
  (optionNames.filterMap (·.2)).reverse.filter options.contains

/-- Lists the options. -/
def listOptions (plainly : Bool) : Act Unit := do
  let options := (← get).options
  if plainly then Act.printLine (raw "Current option settings")
  for (name, letter) in optionNames do
    let on := (letter.map options.contains).getD false
    if plainly then
      Act.printLine (Raw.padRight 16 (raw name) ' ' ++ raw (if on then "on" else "off"))
    else Act.printLine (raw (if on then "set -o " else "set +o ") ++ raw name)

/-- Switches options by their letters; `o` is followed by a name. -/
def switchLetters (on : Bool) : Raw → List Raw → Act (List Raw)
  | [], rest => return rest
  | 'o' :: letters, rest => do
      match rest with
      | [] => listOptions on
      | name :: _ =>
          match optionNames.find? fun o => raw o.1 = name with
          | some (_, some letter) => Act.setOption letter on
          | some (_, none) => pure ()
          | none => Act.fail (raw "Illegal option " ++ raw (if on then "-o " else "+o ") ++ name)
      switchLetters on letters (rest.drop 1)
  | letter :: letters, rest => do
      if (optionNames.filterMap (·.2)).contains letter then
        Act.setOption letter on
        switchLetters on letters rest
      else Act.fail (raw "Illegal option -" ++ [letter])

/-- Sets the positional parameters. -/
def setPositional (words : List Raw) : Act Unit :=
  modify fun s => { s with positional := words, nextOption := (1, none) }

/-- Switches options, and gives what is left: new positional parameters, if there are any. -/
def switchOptions : (fuel : Nat) → List Raw → Act (Option (List Raw))
  | 0, _ => return none
  | fuel + 1, arguments => do
      match arguments with
      | ['-'] :: rest =>
          Act.setOption 'x' false
          Act.setOption 'v' false
          return if rest.isEmpty then none else some rest
      | ['-', '-'] :: rest => return some rest
      | ('-' :: letters) :: rest => switchOptions fuel (← switchLetters true letters rest)
      | ('+' :: letters) :: rest => switchOptions fuel (← switchLetters false letters rest)
      | [] => return none
      | rest => return some rest

/-- Lists variables, or switches options and sets positional parameters. -/
def set (arguments : List Raw) : Act Nat := do
  if arguments.isEmpty then listVariables [] fun v => v.value.isSome
  else
    match ← switchOptions (arguments.length + 1) arguments with
    | some words => setPositional words
    | none => pure ()
  return 0

/-- Drops positional parameters. -/
def shift (arguments : List Raw) : Act Nat := do
  let count ← match arguments with
    | word :: _ => Act.number word
    | [] => pure 1
  let positional := (← get).positional
  if positional.length < count then Act.fail (raw "can't shift that many")
  else
    setPositional (positional.drop count)
    return 0

/-- What is found of an option. -/
structure Found where
  letter : Char
  argument : Option Raw
  /-- The index of the word that comes next, and what was read of the word before it. -/
  next : Nat × Option Nat

/-- How often a letter may be followed by an argument: whether a row of letters has the letter, and
whether a colon follows it there. -/
def letterIn (letter : Char) : Raw → Option Bool
  | [] => none
  | c :: rest =>
      if c = letter then some (rest.head? = some ':')
      else
        match rest with
        | ':' :: rest => letterIn letter rest
        | rest => letterIn letter rest

/-- Reads the next option of some words. -/
def getopts (arguments : List Raw) : Act Nat := do
  match arguments with
  | letters :: name :: operands =>
      let s ← get
      let words := if operands.isEmpty then s.positional else operands
      let (index, offset) := if s.nextOption.1 > words.length + 1 then (1, none) else s.nextOption
      let inWord : Option Raw := match offset with
        | some n =>
            if index ≤ 1 then none
            else
              let rest := (words.getD (index - 2) []).drop n
              if rest.isEmpty then none else some rest
        | none => none
      let start : Option (Raw × Nat) := match inWord with
        | some rest => some (rest, index)
        | none =>
            match words[index - 1]? with
            | some ('-' :: rest) => if rest.isEmpty then none else some (rest, index + 1)
            | _ => none
      let conclude := fun (letter : Char) (next : Nat × Option Nat) (status : Nat) => do
        Act.assign (raw "OPTIND") (Raw.ofNat next.1)
        Act.assign name [letter]
        modify fun s => { s with nextOption := next }
        return status
      match start with
      | none => conclude '?' (index, none) 1
      | some (['-'], next) =>
          if inWord.isNone then conclude '?' (next, none) 1
          else option letters words '-' [] next conclude
      | some (rest, next) => option letters words (rest.headD ' ') rest.tail next conclude
  | _ => Act.fail (raw "Usage: getopts optstring var [arg...]")
where
  /-- Deals with an option, behind which `rest` is left of its word. -/
  option (letters : Raw) (words : List Raw) (letter : Char) (rest : Raw) (next : Nat)
      (conclude : Char → Nat × Option Nat → Nat → Act Nat) : Act Nat := do
    let silent := letters.head? = some ':'
    let known := if silent then letters.tail else letters
    let place := if rest.isEmpty then none
      else some ((words.getD (next - 2) []).length - rest.length)
    let refuse := fun (text : String) (shown : Char) (at? : Option Nat) => do
      if silent then
        Act.assign (raw "OPTARG") [letter]
        conclude shown (next, at?) 0
      else
        Act.machine (Step.errorLine (raw text ++ letter :: raw (if shown = ':' then " option"
          else "")))
        Act.unset (raw "OPTARG")
        conclude '?' (next, at?) 0
    match letterIn letter known with
    | none => refuse "Illegal option -" '?' (if rest.isEmpty then none else place)
    | some false =>
        Act.assign (raw "OPTARG") []
        conclude letter (next, place) 0
    | some true =>
        if !rest.isEmpty then
          Act.assign (raw "OPTARG") rest
          conclude letter (next, none) 0
        else
          match words[next - 1]? with
          | some value =>
              Act.assign (raw "OPTARG") value
              conclude letter (next + 1, none) 0
          | none => refuse "No arg for -" ':' none

/-- The characters of a line that is read, and whether they part fields. -/
abbrev ReadLine := List (Char × Bool)

/-- Takes a line from what there is to read: its characters, how many were taken, and whether it has
an end.  A backslash protects the character behind it, or joins two lines. -/
def takeLine (plain : Bool) : (taken : Nat) → (latest : ReadLine) → Raw → ReadLine × Nat × Bool
  | taken, latest, [] => (latest.reverse, taken, false)
  | taken, latest, c :: rest =>
      if c = '\n' then (latest.reverse, taken + 1, true)
      else if c.toNat = 0 then takeLine plain (taken + 1) latest rest
      else if c = '\\' ∧ !plain then
        match rest with
        | [] => (latest.reverse, taken + 1, false)
        | d :: rest =>
            if d = '\n' then takeLine plain (taken + 2) latest rest
            else takeLine plain (taken + 2) ((d, false) :: latest) rest
      else takeLine plain (taken + 1) ((c, true) :: latest) rest

/-- Whether a character of a line is a separator that is a blank, or one that is none. -/
def separates (separators : Raw) (blank : Bool) (c : Char × Bool) : Bool :=
  c.2 && separators.contains c.1 && (usualSeparators.contains c.1 == blank)

/-- The field at the front of a line, and what follows the separators behind it. -/
def fieldOf (separators : Raw) (line : ReadLine) : ReadLine × ReadLine :=
  let isSeparator := fun c => separates separators true c || separates separators false c
  let field := line.takeWhile fun c => !isSeparator c
  let rest := (line.drop field.length).dropWhile (separates separators true)
  match rest with
  | c :: more =>
      if separates separators false c then (field, more.dropWhile (separates separators true))
      else (field, rest)
  | [] => (field, [])

/-- What the last variable gets: the rest of the line without blank separators at its end; a single
separator behind its only field is left out too. -/
def lastField (separators : Raw) (line : ReadLine) : ReadLine :=
  let trimmed := (line.reverse.dropWhile (separates separators true)).reverse
  let (field, rest) := fieldOf separators trimmed
  if rest.isEmpty then field else trimmed

/-- Gives the fields of a line to variables. -/
def giveFields (separators : Raw) : (names : List Raw) → ReadLine → Act Unit
  | [], _ => pure ()
  | [name], line => Act.assign name ((lastField separators line).map (·.1))
  | name :: rest, line => do
      let (field, line) := fieldOf separators line
      Act.assign name (field.map (·.1))
      giveFields separators rest line

/-- Reads a line into variables. -/
def read (arguments : List Raw) : Act Nat := do
  let (options, names) ← Act.options "r" "p" (arguments.flatten.length + 2) arguments
  if names.isEmpty then Act.fail (raw "arg count")
  else
    let ahead := match ← Act.fed (Act.machine (Step.ahead 0)) ((← get).jobs.length + 1) with
      | .ok text => text
      | .error _ => []
    let (line, taken, ended) := takeLine (options.any (·.1 = 'r')) 0 [] ahead
    Act.machine (Step.skip 0 taken)
    let separators ← Act.separators
    let line := line.dropWhile (separates separators true)
    match names with
    | [name] =>
        let trimmed := (line.reverse.dropWhile (separates separators true)).reverse
        Act.assign name (trimmed.map (·.1))
    | _ => giveFields separators names line
    return if ended then 0 else 1

end Bootstrap.Shell.Builtin
