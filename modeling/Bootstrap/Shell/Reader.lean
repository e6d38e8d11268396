import Bootstrap.Shell.Spelling

/-!
# Reading shell scripts

The reader takes a script one complete command at a time, as a shell does that
runs what it has read before it reads on.  A word may hold scripts of its own, so
words and commands are read by each other.

Every function takes fuel, which bounds how far the reader goes; the wrapper
`nextCommand` gives it enough for the text at hand.
-/

namespace Bootstrap.Shell.Reader

/-- The fault of a script that is nested too deep. -/
def exhausted {α : Type} : ReadStep α := fail (raw "out of space")

mutual

/-- Reads the characters of a word to its end. -/
def spell : (fuel : Nat) → (lineStart : Bool) → Spelling → ReadStep Spelling
  | 0, _, _ => exhausted
  | fuel + 1, lineStart, s => do
      if lineStart && (← atDelimiter s fuel) then return s
      else
        let plain := (← get).outlook.delimiter
        match ← (if s.top.manner = .single then take? else joined? fuel) with
        | none => return s
        | some '\n' =>
            if s.top.manner = .bare ∧ s.top.braces = 0 then putBack (some '\n'); return s
            else spell fuel true (s.addPlain '\n')
        | some c =>
            match s.top.manner with
            | .single =>
                spell fuel false (if c = '\'' then s.closeQuote c else s.addPlain c)
            | .bare =>
                if c = '\'' then spell fuel false s.openSingle
                else if c = '"' then spell fuel false s.openDouble
                else if endsWord c ∧ s.top.braces = 0 then putBack (some c); return s
                else spellCommon fuel plain s c
            | .double =>
                if c = '"' then spell fuel false (s.closeQuote c)
                else spellCommon fuel plain s c
            | .arithmetic =>
                if c = '(' then
                  spell fuel false
                    ((s.frame fun f => { f with parentheses := f.parentheses + 1 }).addPlain c)
                else if c = ')' then
                  if s.top.parentheses ≠ 0 then
                    spell fuel false
                      ((s.frame fun f => { f with parentheses := f.parentheses - 1 }).addPlain c)
                  else
                    match ← joined? fuel with
                    | some ')' => spell fuel false s.close.pop
                    | d? => putBack d?; spell fuel false (s.addPlain ')')
                else spellCommon fuel plain s c

/-- Goes on at a character that means the same wherever it is not between single quotes. -/
def spellCommon : (fuel : Nat) → (plain : Bool) → Spelling → Char → ReadStep Spelling
  | 0, _, _, _ => exhausted
  | fuel + 1, plain, s, c => do
      if c = '\\' then
        match ← take? with
        | none => spell fuel false (s.add true '\\')
        | some d => spell fuel false (s.escaped d)
      else if c = '}' then spell fuel false s.closeBrace
      else if c = backquote ∧ !plain then
        let text ← backquotedText s.top.isDouble fuel []
        let script ← within text (do
          let script ← list fuel 2
          hereTexts fuel
          return script)
        spell fuel false (s.addPart (.output s.covers script))
      else if c = '$' ∧ !plain then spell fuel false (← expansion fuel s)
      else spell fuel false (s.addPlain c)

/-- Reads what follows a dollar sign. -/
def expansion : (fuel : Nat) → Spelling → ReadStep Spelling
  | 0, _ => exhausted
  | fuel + 1, s => do
      match ← joined? fuel with
      | none => return s.addPlain '$'
      | some '(' =>
          match ← joined? fuel with
          | some '(' =>
              return (s.open (.arithmetic s.covers) false).push (.ofManner .arithmetic)
          | c? =>
              putBack c?
              let awaited := (← get).awaited
              modify fun r => { r with awaited := [] }
              let script ← list fuel 2
              if (← next fuel) ≠ .closes then unexpectedFor .closes
              else
                hereTexts fuel
                modify fun r => { r with awaited := awaited }
                return s.addPart (.output s.covers script)
      | some '{' => parameterUse fuel s
      | some c =>
          if Word.isNameStart c then
            let name := c :: (← takeWhile Word.isNameChar fuel)
            return s.addPart (.parameter s.covers name .value)
          else if c.isDigit || isSpecial c then
            return s.addPart (.parameter s.covers [c] .value)
          else
            putBack (some c)
            return s.addPlain '$'

/-- Reads the texts that redirections wait for. -/
def hereTexts : (fuel : Nat) → ReadStep Unit
  | 0 => exhausted
  | fuel + 1 => do
      match (← get).awaited with
      | [] => pure ()
      | a :: rest =>
          modify fun r => { r with awaited := [] }
          let s ← spell fuel true (.ofHere a)
          match s.fault? with
          | some message => fail message
          | none =>
              modify fun r => { r with
                texts := r.texts.setIfInBounds a.number (wordOf s.parts)
                awaited := rest }
              hereTexts fuel

/-- Reads a token as it stands. -/
def rawToken : (fuel : Nat) → ReadStep Token
  | 0 => exhausted
  | fuel + 1 => do
      if (← get).again then
        modify fun r => { r with again := false }
        return (← get).latest.token
      else
        let found := fun (t : Token) => do
          modify fun r => { r with latest := { r.latest with token := t, quoted := false } }
          return t
        let doubled := fun (c : Char) (two one : Token) => do
          let d? ← joined? fuel
          if d? = some c then found two else putBack d?; found one
        match ← joined? fuel with
        | none => found .endOfFile
        | some ' ' | some '\t' => rawToken fuel
        | some '#' => skipComment fuel; rawToken fuel
        | some '\n' => found .newline
        | some '&' => doubled '&' .both .ampersand
        | some '|' => doubled '|' .either .pipe
        | some ';' => doubled ';' .endOfClause .semicolon
        | some '(' => found .opens
        | some ')' => found .closes
        | c? =>
            putBack c?
            let s ← spell fuel false .ofWord
            match s.fault? with
            | some message => fail message
            | none =>
                let word := wordOf s.parts
                let short? := word.plain?.filter fun t => t.length ≤ 1 && t.all Char.isDigit
                match ← ahead?, short? with
                | some c, some digits =>
                    if (c = '<' ∨ c = '>') ∧ !s.quoted then
                      let operator ← redirectOperator fuel
                      let usual := if c = '>' then 1 else 0
                      let descriptor := (Raw.digits? digits).getD usual
                      modify fun r => { r with latest :=
                        ⟨.redirection, word, false, descriptor, operator⟩ }
                      return .redirection
                    else foundWord word s.quoted
                | _, _ => foundWord word s.quoted
where
  /-- The token is a word. -/
  foundWord (word : Word) (quoted : Bool) : ReadStep Token := do
    modify fun r => { r with latest := ⟨.word, word, quoted, 0, .fromFile⟩ }
    return .word

/-- Reads a token in the light of what is looked for. -/
def next : (fuel : Nat) → ReadStep Token
  | 0 => exhausted
  | fuel + 1 => do
      let wanted := (← get).outlook
      let t ← nextBelow fuel wanted.lines
      let wanted := wanted.or (← get).outlook
      lookFor .plain
      let latest := (← get).latest
      if t ≠ .word ∨ latest.quoted then return t
      else
        match latest.word.plain? with
        | none => return t
        | some text =>
            match if wanted.reserved then Reserved.ofText? text else none with
            | some r =>
                modify fun s => { s with latest := { s.latest with token := .reserved r } }
                return .reserved r
            | none =>
                if wanted.aliases then
                  let s ← get
                  match s.aliases.lookup text with
                  | some value =>
                      if s.insets.any (·.name = text) then return t
                      else
                        if !value.isEmpty then
                          let endsBlank := value.getLast? = some ' ' ∨ value.getLast? = some '\t'
                          set { s with insets := ⟨value, text, endsBlank⟩ :: s.insets }
                        lookFor wanted
                        next fuel
                  | none => return t
                else return t

/-- Reads a token; empty lines in front of it are skipped if asked to. -/
def nextBelow : (fuel : Nat) → (lines : Bool) → ReadStep Token
  | 0, _ => exhausted
  | fuel + 1, lines => do
      let t ← rawToken fuel
      if lines ∧ t = .newline then
        hereTexts fuel
        lookFor .plain
        nextBelow fuel true
      else return t

/-- Reads the word of a redirection. -/
def target : (fuel : Nat) → ReadStep Redirect
  | 0 => exhausted
  | fuel + 1 => do
      let r := (← get).latest
      let isHere := match r.operator with
        | .fromText _ => true
        | _ => false
      if isHere then lookFor { Outlook.plain with delimiter := true }
      if (← next fuel) ≠ .word then unexpected
      else
        let latest := (← get).latest
        let copy := fun (word : Word) =>
          match word.plain? with
          | some ['-'] => Redirect.closed r.descriptor
          | some [c] => if c.isDigit then .copyOf r.descriptor (c.toNat - 48)
              else .named r.descriptor word
          | _ => .named r.descriptor word
        match r.operator with
        | .fromFile => return .fromFile r.descriptor latest.word
        | .both => return .both r.descriptor latest.word
        | .toFile => return .toFile r.descriptor false latest.word
        | .toFileAtAnyRate => return .toFile r.descriptor true latest.word
        | .toFileEnd => return .toFileEnd r.descriptor latest.word
        | .copyIn | .copyOut => return copy latest.word
        | .fromText strips =>
            let number := (← get).texts.size
            modify fun s => { s with
              texts := s.texts.push []
              awaited := s.awaited ++ [⟨number, latest.word.text, strips, latest.quoted⟩] }
            return .fromText r.descriptor number

/-- Reads a list of commands.  With `rule` one it is a complete command, which ends at the end of a
line; with zero there has to be a command in it; with two there need not. -/
def list : (fuel : Nat) → (rule : Nat) → ReadStep (Option Command)
  | 0, _ => exhausted
  | fuel + 1, rule => listFrom fuel (rule = 1) (rule = 2) none

/-- Goes on with a list of commands. -/
def listFrom : (fuel : Nat) → (isLine mayEnd : Bool) → (before : Option Command) →
    ReadStep (Option Command)
  | 0, _, _, _ => exhausted
  | fuel + 1, isLine, mayEnd, before => do
      lookFor (if isLine then .command else .commandBelow)
      let t ← next fuel
      if t = .newline then
        hereTexts fuel
        return before
      else if t = .endOfFile then
        hereTexts fuel
        readAgain
        return before
      else
        readAgain
        if !isLine && mayEnd && t.endsList then return before
        else
          let command ← joined fuel
          let t ← next fuel
          let command := if t = .ampersand then inBackground command else command
          let whole := match before with
            | some first => Command.sequence first command
            | none => command
          match t with
          | .endOfFile =>
              hereTexts fuel
              readAgain
              return some whole
          | .newline => readAgain; listFrom fuel isLine true (some whole)
          | .ampersand | .semicolon => listFrom fuel isLine true (some whole)
          | _ =>
              if isLine then unexpected
              else readAgain; return some whole
where
  /-- The same command, not waited for. -/
  inBackground : Command → Command
    | .piped commands _ => .piped commands true
    | .redirected line body redirects => .background line body redirects
    | command => .background 0 command []

/-- Reads pipelines that are joined by success or failure. -/
def joined : (fuel : Nat) → ReadStep Command
  | 0 => exhausted
  | fuel + 1 => do joinedFrom fuel (← pipeline fuel)

/-- Goes on behind a pipeline. -/
def joinedFrom : (fuel : Nat) → Command → ReadStep Command
  | 0, _ => exhausted
  | fuel + 1, first => do
      match ← next fuel with
      | .both =>
          lookFor .commandBelow
          joinedFrom fuel (.both first (← pipeline fuel))
      | .either =>
          lookFor .commandBelow
          joinedFrom fuel (.either first (← pipeline fuel))
      | _ => readAgain; return first

/-- Reads a pipeline. -/
def pipeline : (fuel : Nat) → ReadStep Command
  | 0 => exhausted
  | fuel + 1 => do
      let negates := (← next fuel) = .reserved .not
      if negates then lookFor .command else readAgain
      let first ← command fuel
      let whole ← do
        if (← next fuel) = .pipe then
          pure (Command.piped (first :: (← pipeRest fuel)) false)
        else
          pure first
      readAgain
      return if negates then .negated whole else whole

/-- Reads the commands of a pipeline behind its first. -/
def pipeRest : (fuel : Nat) → ReadStep (List Command)
  | 0 => exhausted
  | fuel + 1 => do
      lookFor .commandBelow
      let first ← command fuel
      if (← next fuel) = .pipe then return first :: (← pipeRest fuel) else return [first]

/-- Reads a list of commands that is not empty.  Where the script ends instead, what has to follow
the list is missing, and that is reported. -/
def body : (fuel : Nat) → ReadStep Command
  | 0 => exhausted
  | fuel + 1 => do
      return (← list fuel 0).getD (.simple 0 [] [] [])

/-- Takes a token that has to be here. -/
def expect : (fuel : Nat) → Token → ReadStep Unit
  | 0, _ => exhausted
  | fuel + 1, t => do
      if (← next fuel) ≠ t then unexpectedFor t

/-- Reads what follows the first body of a choice. -/
def choiceRest : (fuel : Nat) → ReadStep (Option Command)
  | 0 => exhausted
  | fuel + 1 => do
      match ← next fuel with
      | .reserved .elif =>
          let condition ← body fuel
          expect fuel (.reserved .«then»)
          let first ← body fuel
          return some (.choice condition first (← choiceRest fuel))
      | .reserved .«else» => return some (← body fuel)
      | _ => readAgain; return none

/-- Reads words up to another token. -/
def words : (fuel : Nat) → ReadStep (List Word)
  | 0 => exhausted
  | fuel + 1 => do
      if (← next fuel) = .word then
        let word := (← get).latest.word
        return word :: (← words fuel)
      else return []

/-- Reads a loop over words behind its first word. -/
def each : (fuel : Nat) → (line : Nat) → ReadStep Command
  | 0, _ => exhausted
  | fuel + 1, line => do
      let t ← next fuel
      let latest := (← get).latest
      let name := latest.word.text
      if t ≠ .word ∨ latest.quoted ∨ latest.word.plain? = none ∨ !Word.isName name then
        fail (raw "Bad for loop variable")
      else
        lookFor .commandBelow
        let ws ← do
          if (← next fuel) = .reserved .«in» then
            let ws ← words fuel
            let t := (← get).latest.token
            if t ≠ .newline ∧ t ≠ .semicolon then unexpected
            pure ws
          else
            if (← get).latest.token ≠ .semicolon then readAgain
            pure [Word.positional]
        lookFor .commandBelow
        expect fuel (.reserved .«do»)
        return .each line name ws (← body fuel)

/-- Reads the patterns of a clause, the first of which is the latest token. -/
def patterns : (fuel : Nat) → ReadStep (List Word)
  | 0 => exhausted
  | fuel + 1 => do
      let word := (← get).latest.word
      if (← next fuel) = .pipe then
        let _ ← next fuel
        return word :: (← patterns fuel)
      else return [word]

/-- Reads the clauses of a selection. -/
def clauses : (fuel : Nat) → ReadStep (List (List Word × Option Command))
  | 0 => exhausted
  | fuel + 1 => do
      lookFor { Outlook.commandBelow with aliases := false }
      let t ← next fuel
      if t = .reserved .esac then return []
      else
        if t = .opens then
          let _ ← next fuel
        let ps ← patterns fuel
        if (← get).latest.token ≠ .closes then unexpectedFor .closes
        else
          let script ← list fuel 2
          lookFor { Outlook.commandBelow with aliases := false }
          match ← next fuel with
          | .reserved .esac => return [(ps, script)]
          | .endOfClause => return (ps, script) :: (← clauses fuel)
          | _ => unexpectedFor .endOfClause

/-- Reads a command of a pipeline. -/
def command : (fuel : Nat) → ReadStep Command
  | 0 => exhausted
  | fuel + 1 => do
      let line := (← get).line
      match ← next fuel with
      | .reserved .«if» =>
          let condition ← body fuel
          expect fuel (.reserved .«then»)
          let first ← body fuel
          let rest ← choiceRest fuel
          expect fuel (.reserved .fi)
          redirected fuel line (.choice condition first rest)
      | .reserved .«while» =>
          let condition ← body fuel
          expect fuel (.reserved .«do»)
          let inner ← body fuel
          expect fuel (.reserved .done)
          redirected fuel line (.loop false condition inner)
      | .reserved .«until» =>
          let condition ← body fuel
          expect fuel (.reserved .«do»)
          let inner ← body fuel
          expect fuel (.reserved .done)
          redirected fuel line (.loop true condition inner)
      | .reserved .«for» =>
          let loop ← each fuel line
          expect fuel (.reserved .done)
          redirected fuel line loop
      | .reserved .«case» =>
          if (← next fuel) ≠ .word then unexpectedFor .word
          else
            let subject := (← get).latest.word
            lookFor .commandBelow
            expect fuel (.reserved .«in»)
            redirected fuel line (.select line subject (← clauses fuel))
      | .opens =>
          let inner ← body fuel
          expect fuel .closes
          redirected fuel line (.subshell line inner [])
      | .reserved .opens =>
          let inner ← body fuel
          expect fuel (.reserved .closes)
          redirected fuel line inner
      | .word | .redirection =>
          readAgain
          simple fuel (← get).line true [] [] []
      | _ => unexpected

/-- Reads the redirections behind a command. -/
def redirected : (fuel : Nat) → (line : Nat) → Command → ReadStep Command
  | 0, _, _ => exhausted
  | fuel + 1, line, inner => do
      let redirects ← redirectsBehind fuel
      match redirects, inner with
      | [], _ => return inner
      | _, .subshell l b _ => return .subshell l b redirects
      | _, _ => return .redirected line inner redirects

/-- Reads redirections. -/
def redirectsBehind : (fuel : Nat) → ReadStep (List Redirect)
  | 0 => exhausted
  | fuel + 1 => do
      lookFor .command
      if (← next fuel) = .redirection then
        let r ← target fuel
        return r :: (← redirectsBehind fuel)
      else readAgain; return []

/-- Reads a simple command: assignments, words and redirections, each in reverse order.  As long as
no word of the command was read, the next may be an alias or an assignment. -/
def simple : (fuel : Nat) → (line : Nat) → (first : Bool) → List (Raw × Word) → List Word →
    List Redirect → ReadStep Command
  | 0, _, _, _, _, _ => exhausted
  | fuel + 1, line, first, assigned, ws, redirects => do
      let whole := Command.simple line assigned.reverse ws.reverse redirects.reverse
      lookFor { Outlook.plain with aliases := first }
      match ← next fuel with
      | .word =>
          let word := (← get).latest.word
          match if first then word.assignment? else none with
          | some a => simple fuel line first (a :: assigned) ws redirects
          | none => simple fuel line false assigned (word :: ws) redirects
      | .redirection =>
          let r ← target fuel
          simple fuel line first assigned ws (r :: redirects)
      | .opens =>
          match ws, assigned, redirects with
          | [name], [], [] =>
              if (← next fuel) ≠ .closes then unexpectedFor .closes
              else
                match name.plain? with
                | some text =>
                    if Word.isName text && !isTaken text then
                      lookFor .commandBelow
                      return .define text (← command fuel)
                    else fail (raw "Bad function name")
                | none => fail (raw "Bad function name")
          | _, _, _ => readAgain; return whole
      | _ => readAgain; return whole
where
  /-- Whether no function may have the name. -/
  isTaken (name : Raw) : Bool :=
    ["break", "continue", "eval", "exec", "exit", "export", "local", "readonly", "return", "set",
      "shift", "times", "trap", "unset"].any fun s => raw s = name

end

/-- A complete command of a script. -/
inductive Complete where
  /-- The script is at its end. -/
  | nothing
  /-- A command, or an empty line, and whether the script is at its end behind it. -/
  | command (c : Option Command) (isLast : Bool)

/-- Reads the next complete command. -/
def nextCommand (s : Source) : Except ReadFault (Complete × Source) :=
  let size := s.rest.length + (s.insets.flatMap (·.rest)).length +
    (s.aliases.flatMap (·.2)).length
  let start := { s with again := false, outlook := .plain, awaited := [] }
  match (list (16 * (size + 64)) 1).run start with
  | .error e => .error e
  | .ok (command?, s) =>
      let isLast := s.again && s.latest.token = .endOfFile
      if isLast && command?.isNone then .ok (.nothing, s)
      else .ok (.command command? isLast, s)

/-- The word that a text is as if between double quotes. -/
def quotedText (text : Raw) : Option Word :=
  let start := Source.ofText text
  let end? : Awaited := ⟨0, [Char.ofNat 0], false, false⟩
  match (spell (16 * (text.length + 64)) false (.ofHere end?)).run start with
  | .ok (s, _) => if s.fault?.isNone then some (wordOf s.parts) else none
  | .error _ => none

end Bootstrap.Shell.Reader
