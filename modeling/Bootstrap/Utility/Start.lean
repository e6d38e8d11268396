import Bootstrap.Utility.Ending
import Bootstrap.Utility.Say

/-!
# Utilities that start programs

Some turn into the program they are told, in another environment; others start programs
and wait for them.
-/

namespace Bootstrap.Utility

open Machine

/-- The status of a utility whose program could not be started. -/
def startFailure (e : Errno) : Nat := if e = .noEntry then 127 else 126

/-- Turns the process into a program, or complains that this failed. -/
def turnInto (launch : Launcher) (words : List Raw) (fault : Raw → Errno → Step Unit) : Step Nat := do
  let name := words.headD []
  match ← Step.find name words with
  | .ok program => Step.become launch program
  | .error e =>
      fault name e
      return startFailure e

/-- Complains that a command could not be run. -/
def cannotRun (name : Raw) (e : Errno) : Step Unit :=
  Step.complain (raw "failed to run command " ++ NameQuoted.always name ++ raw ": " ++ raw e.strerror)

/-! ## Environments -/

/-- The words of a text, in which quotes and backslashes have their usual meaning; `word` is the
present one, the latest first.  `fuel` bounds the number of characters. -/
def splitWords : (fuel : Nat) → (quote : Option Char) → (word : Option Raw) → Raw → List Raw
  | 0, _, word, _ | _, _, word, [] => (word.map List.reverse).toList
  | fuel + 1, quote, word, c :: rest =>
      let add := fun (d : Char) (rest : Raw) => splitWords fuel quote (some (d :: word.getD [])) rest
      match quote, c, rest with
      | some q, _, _ =>
          if c = q then splitWords fuel none (some (word.getD [])) rest
          else
            match c, rest with
            | '\\', d :: more =>
                if q = '"' ∨ d = '\\' ∨ d = '\'' then add d more else add c rest
            | _, _ => add c rest
      | none, '\\', d :: more =>
          match d with
          | 'n' => add '\n' more
          | 't' => add '\t' more
          | '_' => (word.map List.reverse).toList ++ splitWords fuel none none more
          | d => add d more
      | none, _, _ =>
          if c = '\'' ∨ c = '"' then splitWords fuel (some c) (some (word.getD [])) rest
          else if Raw.isBlank c then
            (word.map List.reverse).toList ++ splitWords fuel none none rest
          else add c rest

/-- The arguments of `env` with the words of split texts in place of them; `fuel` bounds the number of
arguments. -/
def withSplit : (fuel : Nat) → List Raw → List Raw
  | 0, words => words
  | fuel + 1, words =>
      match words with
      | ('-' :: 'S' :: text) :: rest =>
          let (text, rest) := if text.isEmpty then (rest.headD [], rest.drop 1) else (text, rest)
          withSplit fuel (splitWords (text.length + 1) none none text ++ rest)
      | ('-' :: '-' :: 's' :: text) :: rest =>
          match text.dropWhile (· ≠ '=') with
          | _ :: value => withSplit fuel (splitWords (value.length + 1) none none value ++ rest)
          | [] => words
      | word :: rest =>
          if word.head? = some '-' ∧ 1 < word.length ∧ word ≠ raw "--" then
            let takesNext := word = raw "-u" || word = raw "-C"
            if takesNext then word :: rest.take 1 ++ withSplit fuel (rest.drop 1)
            else word :: withSplit fuel rest
          else words
      | [] => []

/-- The options of `env`. -/
def envOptions : Options :=
  ⟨"0iu:C:S:v",
    [("ignore-environment", .none, "i"), ("null", .none, "0"), ("unset", .required, "u"),
      ("chdir", .required, "C"), ("split-string", .required, "S"), ("debug", .none, "v"),
      ("block-signal", .optional, "block"), ("default-signal", .optional, "default"),
      ("ignore-signal", .optional, "ignore")], true⟩

/-- Runs a program in a changed environment, or prints that. -/
def env (launch : Launcher) (words : List Raw) : Step Nat := do
  let a ← arguments 125 envOptions (withSplit (words.length + 1) words.tail)
  let dashed := a.operands.head? = some ['-']
  let operands := if dashed then a.operands.tail else a.operands
  if a.has "i" || dashed then modify fun p => { p with environment := [] }
  for name in a.values "u" do
    if name.isEmpty || name.contains '=' then
      Step.complain (raw "cannot unset " ++ NameQuoted.always name ++ raw ": " ++
        raw Errno.invalidArgument.strerror)
      Step.exit 125
    modify fun p => { p with environment := p.environment.filter (·.1 ≠ name) }
  let settings := operands.takeWhile fun w => w.contains '='
  for s in settings do
    let name := s.takeWhile (· ≠ '=')
    let value := s.drop (name.length + 1)
    modify fun p => { p with
      environment :=
        if p.environment.any (·.1 == name) then
          p.environment.map fun b => if b.1 = name then (name, value) else b
        else p.environment ++ [(name, value)] }
  let command := operands.drop settings.length
  match a.value? "C" with
  | some directory =>
      if command.isEmpty then misuse 125 (raw "must specify command with --chdir (-C)")
      else
        match ← Step.look fun fs cwd => fs.locate cwd directory.path with
        | .ok place =>
            if ((← Step.files).entryAt? place).any Entry.isDirectory then
              modify fun p => { p with cwd := place }
            else notThere directory .notDirectory
        | .error e => notThere directory e
  | none => pure ()
  if command.isEmpty then
    runPlain 125 do
      let ending := if a.has "0" then Raw.byte 0 else '\n'
      for (name, value) in (← get).environment do
        Step.printLater (name ++ '=' :: value ++ [ending])
      return 0
  else if a.has "0" then misuse 125 (raw "cannot specify --null (-0) with command")
  else
    turnInto launch command fun name e => do
      complainAbout' name e
      if e = .noEntry ∧ name.contains ' ' then
        Step.complain (raw "use -[v]S to pass options in shebang lines")
where
  /-- Complains about the directory, and ends the utility. -/
  notThere (directory : Raw) (e : Errno) : Step Unit := do
    complainOf "cannot change directory to " directory e
    Step.exit 125
  /-- Complains about a program. -/
  complainAbout' (name : Raw) (e : Errno) : Step Unit :=
    Step.complain (NameQuoted.always name ++ raw ": " ++ raw e.strerror)

/-- Prints where programs are found by their names. -/
def which (words : List Raw) : Step Nat := do
  let a ← arguments 2 ⟨"as", [], true⟩ words
  let searchPath := (← Step.setting? "PATH").getD Step.pathlessPath
  let directories := (searchPath.splitOn ':').map fun d => if d.isEmpty then ['.'] else d
  if a.operands.isEmpty then return 1
  else
    onEach a.operands fun name => do
      let candidates := if name.contains '/' then [name]
        else directories.map fun d => d ++ '/' :: name
      let found ← candidates.filterM fun path => do
        match ← Step.stat path with
        | .ok e => return e.isExecutable
        | .error _ => return false
      let shown := if a.has "a" then found else found.take 1
      if !a.has "s" then
        for path in shown do
          Step.printLine path
      return if found.isEmpty then 1 else 0

/-! ## Circumstances -/

/-- Runs a program that does not take notice of hangups. -/
def nohup (launch : Launcher) (words : List Raw) : Step Nat := do
  let a ← arguments 125 ⟨"", [], true⟩ words.tail
  if a.operands.isEmpty then missingOperand 125
  else
    modify fun p => { p with ignored := 1 :: p.ignored }
    turnInto launch a.operands cannotRun

/-- Runs a program that lets others go first, or prints that none has to. -/
def nice (launch : Launcher) (words : List Raw) : Step Nat := do
  let words := words.tail.map fun w => match w with
    | '-' :: d :: rest => if d.isDigit then raw "-n" ++ d :: rest else w
    | _ => w
  let a ← arguments 125 ⟨"n:", [("adjustment", .required, "n")], true⟩ words
  match a.value? "n" with
  | some n =>
      if (Raw.int? n).isNone then
        Step.complain (raw "invalid adjustment " ++ NameQuoted.always n)
        Step.exit 125
  | none => pure ()
  if a.operands.isEmpty then
    if a.has "n" then misuse 125 (raw "a command must be given with an adjustment")
    else
      Step.print (raw "0\n")
      return 0
  else
    turnInto launch a.operands fun name e =>
      Step.complain (NameQuoted.always name ++ raw ": " ++ raw e.strerror)

/-- Runs a program as it is. -/
def plainly (launch : Launcher) (words : List Raw) : Step Nat := do
  let a ← arguments 125 ⟨"cfwi:o:e:", [], true⟩ words.tail
  if a.operands.isEmpty then missingOperand 125
  else turnInto launch a.operands cannotRun

/-- The options of `timeout`. -/
def timeoutOptions : Options :=
  ⟨"k:s:v",
    [("kill-after", .required, "k"), ("signal", .required, "s"), ("verbose", .none, "v"),
      ("preserve-status", .none, "preserve"), ("foreground", .none, "foreground")], true⟩

/-- Runs a program and stops it when its time is over. -/
def timeout (launch : Launcher) (words : List Raw) : Step Nat := do
  let a ← arguments 125 timeoutOptions words.tail
  let signal ← match a.value? "s" with
    | none => pure 15
    | some text =>
        match (Raw.digits? text).or (Signal.number? (Raw.toString (Raw.upper text))) with
        | some n => pure n
        | none => misuse 125 (NameQuoted.always text ++ raw ": invalid signal")
  match a.operands with
  | [] | [_] => giveUp 125
  | limit :: command =>
      match duration? limit with
      | none => misuse 125 (raw "invalid time interval " ++ NameQuoted.always limit)
      | some n =>
          match ← Step.find (command.headD []) command with
          | .error e =>
              cannotRun (command.headD []) e
              return startFailure e
          | .ok program =>
              let run := Step.become launch program
              let ending ← if n = 0 then do pure (some (← Step.fork run)) else Step.forkWithin n run
              match ending with
              | some (.exited status) => return status
              | some (.killed s) => throw (.killed s)
              | some .starved => throw .starved
              | none =>
                  let name := Raw.ofString ((Signal.name? signal).getD (toString signal))
                  if a.has "v" then
                    Step.complain (raw "sending signal " ++ name ++ raw " to command " ++
                      NameQuoted.always (command.headD []))
                  if signal = Signal.kill then throw (.killed Signal.kill)
                  else return if a.has "preserve" then 128 + signal else 124

/-! ## Arguments from the input -/

/-- An item of an input, and whether a line ends behind it. -/
structure InputItem where
  text : Raw
  endsLine : Bool

/-- The items of an input between blanks; quotes and backslashes keep blanks in them.  `word` is the
present item, the latest first; `fuel` bounds the number of characters. -/
def readItems (byLine : Bool) : (fuel : Nat) → (quote : Option Char) → (word : Option Raw) → Raw →
    Except Raw (List InputItem)
  | 0, _, word, _ => .ok ((word.map fun w => ⟨w.reverse, true⟩).toList)
  | _ + 1, quote, word, [] =>
      match quote with
      | some q => .error (unmatched q)
      | none => .ok ((word.map fun w => ⟨w.reverse, true⟩).toList)
  | fuel + 1, quote, word, c :: rest =>
      let add := fun (d : Char) (rest : Raw) =>
        readItems byLine fuel quote (some (d :: word.getD [])) rest
      match quote with
      | some q =>
          if c = q then readItems byLine fuel none word rest
          else if c = '\n' then .error (unmatched q)
          else add c rest
      | none =>
          if c = '\'' ∨ c = '"' then readItems byLine fuel (some c) (some (word.getD [])) rest
          else if c = '\\' then
            match rest with
            | d :: more => add d more
            | [] => readItems byLine fuel none word []
          else if c = '\n' then do
            let more ← readItems byLine fuel none none rest
            return (word.map fun w => (⟨w.reverse, true⟩ : InputItem)).toList ++ more
          else if Raw.isBlank c then
            if byLine then
              if word.isNone then readItems byLine fuel none none rest else add c rest
            else do
              let more ← readItems byLine fuel none none rest
              return (word.map fun w => (⟨w.reverse, false⟩ : InputItem)).toList ++ more
          else add c rest
where
  /-- The complaint about a quote that is not closed. -/
  unmatched (q : Char) : Raw :=
    raw "unmatched " ++ raw (if q = '"' then "double" else "single") ++
      raw " quote; by default quotes are special to xargs unless you use the -0 option"

/-- The options of `xargs`. -/
def xargsOptions : Options :=
  ⟨"0a:d:E:e::I:i::L:l::n:oP:prs:tx",
    [("null", .none, "0"), ("arg-file", .required, "a"), ("delimiter", .required, "d"),
      ("eof", .optional, "e"), ("replace", .optional, "i"), ("max-lines", .optional, "l"),
      ("max-args", .required, "n"), ("max-procs", .required, "P"), ("interactive", .none, "p"),
      ("no-run-if-empty", .none, "r"), ("max-chars", .required, "s"), ("verbose", .none, "t"),
      ("exit", .none, "x"), ("open-tty", .none, "o")], true⟩

/-- A text with another in place of every stretch that is equal to a third; `fuel` bounds its
length. -/
def replaced (stretch by' : Raw) : (fuel : Nat) → Raw → Raw
  | 0, text => text
  | _, [] => []
  | fuel + 1, c :: rest =>
      if !stretch.isEmpty && stretch.isPrefixOf (c :: rest) then
        by' ++ replaced stretch by' fuel ((c :: rest).drop stretch.length)
      else c :: replaced stretch by' fuel rest

/-- Items in groups of a size. -/
def inGroups {α : Type} (size : Nat) : (fuel : Nat) → List α → List (List α)
  | 0, _ | _, [] => []
  | fuel + 1, items => items.take size :: inGroups size fuel (items.drop size)

/-- Lines in groups of a size. -/
def lineGroups (size : Nat) (items : List InputItem) : List (List Raw) :=
  let lines := items.foldr (fun (i : InputItem) (lines : List (List Raw)) =>
    if i.endsLine then [i.text] :: lines
    else
      match lines with
      | l :: rest => (i.text :: l) :: rest
      | [] => [[i.text]]) []
  (inGroups size (lines.length + 1) lines).map List.flatten

/-- The status by which `xargs` knows how a program ended, and whether it goes on. -/
def xargsStatus (name : Raw) : Ending → Step (Nat × Bool)
  | .exited 0 => return (0, true)
  | .exited 255 => do
      Step.complain (name ++ raw ": exited with status 255; aborting")
      return (124, false)
  | .exited _ => return (123, true)
  | .killed n => do
      Step.complain (name ++ raw ": terminated by signal " ++ Raw.ofNat n)
      return (125, false)
  | .starved => throw .starved

/-- Runs a program with arguments from the input. -/
def xargs (launch : Launcher) (words : List Raw) : Step Nat := do
  let a ← arguments 1 xargsOptions words.tail
  let command := if a.operands.isEmpty then [raw "echo"] else a.operands
  let text ← match ← match a.value? "a" with
      | some name => Step.readFile name
      | none => Step.readAll 0 with
    | .ok text => pure text
    | .error e =>
        match a.value? "a" with
        | some name => Step.complain (raw "Cannot open input file " ++ NameQuoted.always name ++ raw ": " ++ raw e.strerror)
        | none => pure ()
        Step.exit 1
  let mark? := (a.value? "I").or ((a.value? "i").map fun t => if t.isEmpty then raw "\x7b\x7d" else t)
  let delimiter? := if a.has "0" then some (Raw.byte 0) else
    (a.value? "d").map fun t => match t with
      | ['\\', 'n'] => '\n'
      | ['\\', 't'] => '\t'
      | ['\\', '0'] => Raw.byte 0
      | t => t.headD '\n'
  let items ← match delimiter? with
    | some d => pure ((Raw.records d text).map fun t => (⟨t, true⟩ : InputItem))
    | none =>
        match readItems mark?.isSome (text.length + 1) none none text with
        | .ok items => pure items
        | .error message => do
            Step.complain message
            Step.exit 1
  let items := match a.value? "E" with
    | some stop => items.takeWhile fun (i : InputItem) => i.text ≠ stop
    | none => items
  let number := fun (key : String) => do
    match a.value? key with
    | none => return (none : Option Nat)
    | some value =>
        match Raw.digits? value with
        | some 0 =>
            misuse 1 (raw "value 0 for -" ++ raw key ++ raw " option should be >= 1")
        | some n => return some n
        | none =>
            misuse 1 (raw "invalid number " ++ raw "\"" ++ value ++ raw "\" for -" ++ raw key ++ raw " option")
  let size ← number "n"
  let lines ← number "L"
  let commands := match mark? with
    | some mark => items.map fun (i : InputItem) => command.map fun (w : Raw) => replaced mark i.text (w.length + 1) w
    | none =>
        let groups := match size, lines with
          | some n, _ => inGroups n (items.length + 1) (items.map InputItem.text)
          | none, some n => lineGroups n items
          | none, none => [items.map InputItem.text]
        let groups := if items.isEmpty then if a.has "r" then [] else [[]] else groups
        groups.map (command ++ ·)
  let (status, _) ← commands.foldlM (fun (status, goesOn) words => do
    if !goesOn then return (status, false)
    else
      if a.has "t" then Step.errorLine (Raw.spaced words)
      let name := words.headD []
      match ← Step.find name words with
      | .error e =>
          Step.complain (name ++ raw ": " ++ raw e.strerror)
          return (startFailure e, false)
      | .ok program =>
          let ending ← Step.fork do
            if !a.has "a" then
              let i ← Step.newStream (.device .null)
              Step.connect 0 i
            Step.become launch program
          let (found, more) ← xargsStatus name ending
          return (max status found, more)) ((0 : Nat), true)
  return status

end Bootstrap.Utility
