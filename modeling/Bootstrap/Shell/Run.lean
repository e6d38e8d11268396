import Bootstrap.Shell.Expansion

/-!
# Running commands

The expansion of words and the running of commands, which need each other: a word may
hold a script whose output it stands for, and a command is made of words.

Every function takes fuel, which bounds how deep commands, words and functions lie in
each other.  Loops take none of it for their turns; they have a limit of their own.
-/

namespace Bootstrap.Shell

open Machine

/-- In what position a command stands. -/
structure Position where
  /-- Whether its failure is looked at, and so ends nothing. -/
  tested : Bool
  /-- Whether the shell ends with it. -/
  last : Bool

/-- The beginning of a simple command: its fields, the words that are still to be expanded, and what
its name means. -/
structure Heading where
  /-- Fields in front of the command's name. -/
  lead : List Raw
  fields : List Raw
  rest : List Word
  builtin : Option (Builtin × Builtin.Kind)
  /-- The kind of the first builtin command that was named; `command` may name another. -/
  first : Option Builtin.Kind
  skipsFunctions : Bool
  /-- The search path, if it is not that of the variable. -/
  path : Option Raw

namespace Heading

/-- Whether the command is part of the language. -/
def isSpecial (h : Heading) : Bool := (h.first.map Builtin.Kind.isSpecial).getD false

/-- Whether its arguments may be assignments. -/
def assigns (h : Heading) : Bool := (h.builtin.map fun b => b.2.assigns).getD false

end Heading

namespace Act

/-- Whether anything is arranged to be done at signals or at the end. -/
def hasTraps : Act Bool := do return (← get).traps.any fun t => !t.2.isEmpty

/-- Lets the innermost loop take notice of what is to be left out; gives whether another turn may
follow. -/
def skipLoop : Act Bool := do
  let s ← get
  match s.skip with
  | .nothing => return true
  | .function _ => return false
  | .loops n =>
      set { s with skip := if n ≤ 1 then Skip.nothing else .loops (n - 1) }
      return false
  | .turn n =>
      if n ≤ 1 then
        set { s with skip := Skip.nothing }
        return true
      else
        set { s with skip := .turn (n - 1) }
        return false

/-- Whether a skip leaves the present command. -/
def isSkipping : Act Bool := do
  match (← get).skip with
  | .nothing => return false
  | _ => return true

/-- Runs a step, then another in any case, and hands a stop of the first on. -/
def afterwards {α : Type} (step : Act α) (last : Act Unit) : Act α := do
  let result ← observe step
  match result with
  | .ok a => last; return a
  | .error (.ended e) => throw (.ended e)
  | .error stop => last; throw stop

/-- Closes frames until so many are left. -/
def closeFrames (count : Nat) : (fuel : Nat) → Act Unit
  | 0 => pure ()
  | fuel + 1 => do
      if count < (← get).kept.length then
        closeFrame
        closeFrames count fuel

/-- What was written to a stream, and whether there was no room for more.  From then on it is read
from there; `goesOn` says whether more may come. -/
def drain (index : Nat) (goesOn : Bool) : Act (Raw × Bool) := do
  let s ← get
  match s.process.common.streams[index]? with
  | some (.collector pieces room) =>
      let text := pieces.reverse.flatten
      machine (Step.setStream index (.source text (goesOn && room == 0)))
      return (text, room == 0)
  | _ => return ([], false)

/-- The option parser of `command`: what is left of its arguments, the search path, and whether another
command follows; without one, `command` itself is to be run. -/
def commandWord : List Raw → Option (List Raw × Option Raw)
  | [] => none
  | word :: rest =>
      match word with
      | ['-', '-'] => if rest.isEmpty then none else some (rest, none)
      | '-' :: letters =>
          if letters.isEmpty then some (word :: rest, none)
          else if letters.all (· == 'p') then
            (commandWord rest).map fun (fields, _) => (fields, some usualPath)
          else none
      | _ => some (word :: rest, none)

/-- Writes what a command is before it runs. -/
def trace (mark : Raw) (assignments : List (Raw × Raw)) (fields : List Raw) (channel : Option Nat) :
    Act Unit := do
  let shown := assignments.map (fun (name, value) => name ++ '=' :: value) ++ fields
  let line := mark ++ Raw.spaced shown ++ ['\n']
  match channel with
  | none => pure ()
  | some i =>
      machine (do
        match (← get).common.streams[i]? with
        | some s =>
            let _ ← Step.writeTo i s line
        | none => pure ())

/-- Carries out a builtin command: its name is in messages meanwhile, and what it prints is written at
its end. -/
def carryOut (name : Raw) (work : Act Nat) : Act Nat := do
  let before := (← get).command
  modify fun s => { s with command := some name }
  let result ← observe work
  match result with
  | .error (.ended e) => throw (.ended e)
  | _ =>
      machine Step.flush
      let fault := (← get).process.outputFault
      modify fun s => { s with process := { s.process with outputFault := none } }
      if fault.isSome ∧ result.isOk then warn (name ++ raw ": I/O error")
      modify fun s => { s with command := before }
      match result with
      | .ok status => return if fault.isSome then status ||| 1 else status
      | .error stop => throw stop

/-- Deals with an error of a regular builtin command: there is no more to it than a status. -/
def forgiving (isSpecial : Bool) (work : Act Nat) : Act Nat := do
  match ← observe work with
  | .ok status => return status
  | .error .error => if isSpecial then throw .error else return (← get).status
  | .error stop => throw stop

/-- How deep functions may call each other. -/
def callLimit : Nat := 1000

/-- Calls a function: it has positional parameters and loops of its own. -/
def call (arguments : List Raw) (body : Act Nat) : Act Nat := do
  let s ← get
  if callLimit ≤ s.calls then fail (raw "Maximum function recursion depth (1000) reached")
  else
    set { s with
      positional := arguments
      nextOption := (1, none)
      loops := 0
      calls := s.calls + 1 }
    openFrame
    let depth := s.kept.length
    let comeBack : Act Unit := do
      let frames := (← get).kept.length
      closeFrames depth (frames + 1)
      modify fun now => { now with
        positional := s.positional
        nextOption := s.nextOption
        loops := s.loops
        calls := s.calls
        skip := match now.skip with
          | .function _ => .nothing
          | other => other }
    let _ ← afterwards body comeBack
    return (← get).status

/-- Resets the shell before its end. -/
def reset (stop : Stop) : Act Unit :=
  modify fun s => { s with
    status := match s.finalStatus with
      | some n => if stop = .exit then n else s.status
      | none => s.status
    finalStatus := none
    skip := .nothing
    loops := 0
    calls := 0 }

/-- The file that a script is read from: the first regular one on the search path. -/
def scriptFile (name : Raw) : Act Raw := do
  if name.contains '/' then return name
  else
    let p := (← get).process
    let paths := ((← searchPath).splitOn ':').map fun d => Program.candidate d name
    match paths.find? fun path => p.common.files.isFile p.cwd path.path with
    | some path => return path
    | none => fail (name ++ raw ": not found")

/-- Opens a script. -/
def openScript (path : Raw) : Act Raw := do
  match ← machine (Step.readFile path) with
  | .ok text => return text
  | .error e => fail (raw "cannot open " ++ path ++ raw ": " ++ reason e .opening)

end Act

open Act

section

variable (launch : Launcher)

mutual

/-- Expands the parts of a word. -/
def expand : (fuel : Nat) → WordUse → Word → Act (List Bit)
  | 0, _, _ => throw (.ended .starved)
  | fuel + 1, how, w => do
      if how.tilde = .nowhere then expandParts fuel how w
      else
        let home ← value? (raw "HOME")
        expandParts fuel how (how.tilde.replace home w)

/-- Expands parts one after the other. -/
def expandParts : (fuel : Nat) → WordUse → Word → Act (List Bit)
  | 0, _, _ => throw (.ended .starved)
  | _ + 1, _, [] => return []
  | fuel + 1, how, w@(p :: rest) => do
      match (if how.full then everyParameter? w else none) with
      | some rest => do
          let bits ← allPositional true true true
          return bits ++ (← expandParts fuel how rest)
      | none => do
          let bits ← expandPart fuel how p
          return bits ++ (← expandParts fuel how rest)
where
  /-- What follows the list of all positional parameters between quotes, if the word begins with
  it. -/
  everyParameter? : Word → Option Word
    | .mark :: .parameter true ['@'] .value :: .mark :: rest => some rest
    | _ => none

/-- Expands a part. -/
def expandPart : (fuel : Nat) → WordUse → Part → Act (List Bit)
  | 0, _, _ => throw (.ended .starved)
  | fuel + 1, how, p => do
      match p with
      | .text true t => return t.map Bit.quoted
      | .text false t => return t.map (if how.isInner then Bit.expanded else Bit.literal)
      | .mark => return [.present]
      | .output quoted script => return Bit.ofValue quoted (← outputOf fuel script)
      | .arithmetic quoted inner =>
          let text ← textOf fuel .nowhere inner
          return Bit.ofValue quoted (← Act.arithmetic text)
      | .parameter quoted name use => expandUse fuel how quoted name use

/-- Expands a parameter. -/
def expandUse : (fuel : Nat) → WordUse → (quoted : Bool) → (name : Raw) → ParameterUse →
    Act (List Bit)
  | 0, _, _, _, _ => throw (.ended .starved)
  | fuel + 1, how, quoted, name, use => do
      let inner : WordUse := { how with isInner := !quoted, tilde := .atFront }
      let value ← parameter? name quoted how.full
      let present := fun (orEmpty : Bool) =>
        match value with
        | some bits => !(orEmpty && (Bit.text bits).isEmpty)
        | none => false
      let demanded : Act (List Bit) := do
        match value with
        | some bits => return bits
        | none =>
            if ← has 'u' then fail (name ++ raw ": parameter not set") else return []
      match use with
      | .malformed => fail (raw "Bad substitution")
      | .value => demanded
      | .length => return Bit.ofValue quoted (Raw.ofNat (Bit.text (← demanded)).length)
      | .otherwise orEmpty w =>
          if present orEmpty then return value.getD [] else expand fuel inner w
      | .instead orEmpty w => if present orEmpty then expand fuel inner w else return []
      | .assigned orEmpty w =>
          if present orEmpty then return value.getD []
          else
            let text ← textOf fuel .atFront w
            assign name text
            return (← parameter? name quoted how.full).getD []
      | .demanded orEmpty w =>
          if present orEmpty then return value.getD []
          else
            let text ← textOf fuel .atFront w
            let message := if w.isEmpty then
                raw "parameter not set" ++ (if orEmpty then raw " or null" else [])
              else text
            fail (name ++ raw ": " ++ message)
      | .withoutFront longest w =>
          let pattern ← expand fuel ⟨false, false, .atFront⟩ w
          let text := Bit.text (← demanded)
          return Bit.ofValue quoted
            (Pattern.withoutFront longest (Pattern.ofMarks (Bit.marks pattern)) text)
      | .withoutBack longest w =>
          let pattern ← expand fuel ⟨false, false, .atFront⟩ w
          let text := Bit.text (← demanded)
          return Bit.ofValue quoted
            (Pattern.withoutBack longest (Pattern.ofMarks (Bit.marks pattern)) text)

/-- Expands a word to one text. -/
def textOf : (fuel : Nat) → Tilde → Word → Act Raw
  | 0, _, _ => throw (.ended .starved)
  | fuel + 1, tilde, w => do return Bit.text (← expand fuel ⟨false, false, tilde⟩ w)

/-- Expands a word to fields. -/
def fieldsOf : (fuel : Nat) → Word → Act (List Raw)
  | 0, _ => throw (.ended .starved)
  | fuel + 1, w => do Act.fields (← expand fuel ⟨true, false, .atFront⟩ w)

/-- The output of a script, without the ends of lines at its end. -/
def outputOf : (fuel : Nat) → Option Command → Act Raw
  | 0, _ => throw (.ended .starved)
  | _ + 1, none => return []
  | fuel + 1, some script => do
      let i ← machine (Step.newStream (.collector [] Step.captureRoom))
      let ending ← waitFor (do
        machine (Step.connect 1 i)
        ended fuel (run fuel ⟨false, true⟩ script))
      announce ending
      modify fun s => { s with outputStatus := ending.status }
      return Raw.dropEndWhile (· == '\n') ((← drain i false).1.filter (·.toNat != 0))

/-- Expands the words of redirections. -/
def targetsOf : (fuel : Nat) → List Redirect → Act (List Redirection)
  | 0, _ => throw (.ended .starved)
  | _ + 1, [] => return []
  | fuel + 1, r :: rest => do
      let name := fun (w : Word) => textOf fuel .atFront w
      let target ← match r with
        | .fromFile d w => do pure (d, Target.fromFile (← name w))
        | .both d w => do pure (d, Target.both (← name w))
        | .toFile d insists w => do pure (d, Target.toFile insists (← name w))
        | .toFileEnd d w => do pure (d, Target.toFileEnd (← name w))
        | .copyOf d source => pure (d, Target.copyOf source)
        | .closed d => pure (d, Target.closed)
        | .named d w => do pure (d, ← Target.ofWord (← name w))
        | .fromText d number => pure (d, Target.text number)
      return target :: (← targetsOf fuel rest)

/-- Redirects descriptors. -/
def redirect : (fuel : Nat) → List Redirection → Act Unit
  | 0, _ => throw (.ended .starved)
  | _ + 1, [] => pure ()
  | fuel + 1, (d, target) :: rest => do
      match target with
      | .text number =>
          let w := ((← get).texts[number]?).getD []
          connectText d (← textOf fuel .nowhere w)
      | _ => target.connect d
      redirect fuel rest

/-- Expands words as far as needed to know what the command is. -/
def headingOf : (fuel : Nat) → Heading → Act Heading
  | 0, _ => throw (.ended .starved)
  | fuel + 1, h => do
      match h.fields, h.rest with
      | [], [] => return h
      | [], w :: rest => headingOf fuel { h with fields := ← fieldsOf fuel w, rest := rest }
      | name :: arguments, rest =>
          if !h.skipsFunctions && ((← get).functions.lookup name).isSome then
            return { h with builtin := none }
          else
            match Builtin.ofName? name with
            | none => return { h with builtin := none }
            | some (b, kind) =>
                let h := { h with builtin := some (b, kind), first := some (h.first.getD kind) }
                if name ≠ raw "command" then return h
                else
                  let (arguments, rest) ← operandsOf fuel arguments rest
                  match commandWord arguments with
                  | some (fields, path) =>
                      let lead := arguments.take (arguments.length - fields.length)
                      headingOf fuel { h with
                        lead := h.lead ++ name :: lead
                        fields := fields
                        rest := rest
                        skipsFunctions := true
                        path := if path.isSome then path else h.path }
                  | none => return { h with fields := name :: arguments, rest := rest }

/-- Expands words until there is an argument that is no option. -/
def operandsOf : (fuel : Nat) → List Raw → List Word → Act (List Raw × List Word)
  | 0, _, _ => throw (.ended .starved)
  | fuel + 1, arguments, rest => do
      match rest with
      | [] => return (arguments, [])
      | w :: more =>
          let all := fun (a : Raw) => a.head? = some '-' ∧ a ≠ ['-']
          if arguments.all all then
            operandsOf fuel (arguments ++ (← fieldsOf fuel w)) more
          else return (arguments, rest)

/-- Expands the arguments of a command.  For some commands, assignments are one field each. -/
def argumentsOf : (fuel : Nat) → (assigns : Bool) → List Word → Act (List Raw)
  | 0, _, _ => throw (.ended .starved)
  | _ + 1, _, [] => return []
  | fuel + 1, assigns, w :: rest => do
      let found ← match if assigns then w.assignment? else none with
        | some (name, value) => do pure [name ++ '=' :: (← textOf fuel .behindColons value)]
        | none => fieldsOf fuel w
      return found ++ (← argumentsOf fuel assigns rest)

/-- Carries out assignments; some of them only until the command ends. -/
def assignAll : (fuel : Nat) → (lends hands : Bool) → List (Raw × Word) → Act (List (Raw × Raw))
  | 0, _, _, _ => throw (.ended .starved)
  | _ + 1, _, _, [] => return []
  | fuel + 1, lends, hands, (name, w) :: rest => do
      let value ← textOf fuel .behindColons w
      if lends then lend name value
      else
        assign name value
        if hands then exportName name
      return (name, value) :: (← assignAll fuel lends hands rest)

/-- What stands in front of commands that are written before they run. -/
def traceMark : (fuel : Nat) → Act Raw
  | 0 => return []
  | fuel + 1 => do
      let text := (← value? (raw "PS4")).getD []
      match Reader.quotedText text with
      | some w =>
          let options := (← get).options
          setOption 'x' false
          let mark ← textOf fuel .nowhere w
          modify fun s => { s with options := options }
          return mark
      | none => return text

/-- Runs a simple command. -/
def runSimple : (fuel : Nat) → Position → (assignments : List (Raw × Word)) → List Word →
    List Redirect → Act Nat
  | 0, _, _, _, _ => throw (.ended .starved)
  | fuel + 1, position, assignments, ws, redirects => do
      let depth := (← get).kept.length
      openFrame
      let channels := (← get).process.channels
      modify fun s => { s with outputStatus := 0 }
      let h ← headingOf fuel ⟨[], [], ws, none, none, false, none⟩
      let fields := h.fields ++ (← argumentsOf fuel h.assigns h.rest)
      let isExec := match h.builtin with
        | some (.program, _) => true
        | _ => false
      let targets ← targetsOf fuel redirects
      let before ← channelsOf (targets.map (·.1))
      let comeBack : Act Unit := do
        if !isExec then putBack before
        let frames := (← get).kept.length
        closeFrames depth (frames + 1)
      match ← observe (redirect fuel targets) with
      | .error .error =>
          putBack before
          let frames := (← get).kept.length
          closeFrames depth (frames + 1)
          setStatus 2
          if h.isSpecial then throw .error else return 2
      | .error stop => throw stop
      | .ok () =>
          afterwards (do
            let lends := !fields.isEmpty && !h.isSpecial
            let assigned ← assignAll fuel lends (isExec && 1 < fields.length) assignments
            if ← has 'x' then
              trace (← traceMark fuel) assigned (h.lead ++ fields) (channels.lookup 2)
            carryOutFields fuel position h fields depth) comeBack

/-- Carries out a command whose words are expanded. -/
def carryOutFields : (fuel : Nat) → Position → Heading → (fields : List Raw) → (depth : Nat) →
    Act Nat
  | 0, _, _, _, _ => throw (.ended .starved)
  | fuel + 1, position, h, fields, depth => do
      match fields with
      | [] => return (← get).outputStatus
      | name :: arguments =>
          let functions := (← get).functions
          match if h.skipsFunctions then none else functions.lookup name, h.builtin with
          | some body, _ => call arguments (run fuel ⟨position.tested, false⟩ body)
          | none, some (b, _) =>
              let frames := (← get).kept.length
              if h.isSpecial then closeFrames depth (frames + 1)
              forgiving h.isSpecial
                (carryOut name (builtinWork fuel position h b arguments))
          | none, none =>
              let path ← match h.path with
                | some p => pure p
                | none => searchPath
              match ← Builtin.locate path name with
              | .error e =>
                  if name.contains '/' then
                    warn (name ++ raw ": " ++ reason e .running)
                    return statusOf e
                  else
                    warn (name ++ raw ": " ++ reason e .running)
                    setStatus 127
                    return 127
              | .ok _ =>
                  match ← programNamed path name fields with
                  | .error e =>
                      warn (name ++ raw ": " ++ reason e .running)
                      return statusOf e
                  | .ok program =>
                      if position.last && !(← hasTraps) then become launch program
                      else runProgram launch program

/-- What a builtin command does. -/
def builtinWork : (fuel : Nat) → Position → Heading → Builtin → List Raw → Act Nat
  | 0, _, _, _, _ => throw (.ended .starved)
  | fuel + 1, position, h, b, arguments => do
      match b with
      | .plain work => work arguments
      | .script =>
          let operands := match arguments with
            | ['-', '-'] :: rest => rest
            | rest => rest
          if operands.isEmpty then return 0
          else runText fuel ⟨position.tested, false⟩ false (Raw.spaced operands)
      | .file =>
          let (_, operands) ← letters "" arguments
          match operands with
          | [] => return 0
          | name :: _ =>
              let path ← scriptFile name
              let text ← openScript path
              modify fun s => { s with command := some path }
              let status ← runText fuel ⟨false, false⟩ true text
              modify fun s => { s with
                command := some ['.']
                skip := match s.skip with
                  | .function _ => .nothing
                  | other => other }
              return status
      | .program =>
          let (_, operands) ← letters "" arguments
          match operands with
          | [] => return 0
          | name :: _ =>
              let path ← match h.path with
                | some p => pure p
                | none => searchPath
              match ← programNamed path name operands with
              | .ok program => become launch program
              | .error e =>
                  warn (name ++ raw ": " ++ reason e .running)
                  setStatus (statusOf e)
                  throw .finished

/-- Runs the commands of a text, one after the other as they are read.  Where they come from a file,
they may be shown. -/
def runText : (fuel : Nat) → Position → (isFile : Bool) → (text : Raw) → Act Nat
  | 0, _, _, _ => throw (.ended .starved)
  | fuel + 1, position, isFile, text => do
      let turn := fun ((source, status) : Source × Nat) => do
        let s ← get
        let source := { source with aliases := s.aliases, texts := s.texts }
        match Reader.nextCommand source with
        | .error fault =>
            modify fun s => { s with line := fault.line }
            fail (raw "Syntax error: " ++ fault.message)
        | .ok (complete, rest) =>
            modify fun s => { s with texts := rest.texts }
            if isFile && (← has 'v') then
              let count := source.rest.length - rest.rest.length
              let _ ← machine (Step.write 2 (source.rest.take count))
            match complete with
            | .nothing => return ((rest, status), false)
            | .command none isLast =>
                if isLast && position.last then
                  throw .finished
                return ((rest, status), !isLast)
            | .command (some c) isLast =>
                let n ← run fuel { position with last := position.last && isLast } c
                return ((rest, n), !isLast && !(← isSkipping))
      let (_, status) ← iterate turn (text.length + 2) (Source.ofText text, 0)
      return status

/-- Runs the traps of the signals that were caught. -/
def runTraps : (fuel : Nat) → Act Unit
  | 0 => throw (.ended .starved)
  | fuel + 1 => do
      let s ← get
      if s.caught.isEmpty then pure ()
      else
        let saved := s.finalStatus
        let status := saved.getD s.status
        modify fun s => { s with finalStatus := some status }
        let turn := fun (_ : Unit) => do
          let s ← get
          match s.caught.min? with
          | none => return ((), false)
          | some n =>
              if ← isSkipping then return ((), false)
              else
                set { s with caught := s.caught.filter (· ≠ n) }
                match s.traps.lookup n with
                | some action =>
                    if !action.isEmpty then
                      let _ ← runText fuel ⟨false, false⟩ false action
                      modify fun s => { s with status := match s.skip with
                        | .function true => s.status
                        | _ => status }
                | none => pure ()
                return ((), true)
        iterate turn turnLimit ()
        modify fun s => { s with finalStatus := saved }

/-- Runs what a shell does as a process of its own, and gives the end of that. -/
def ended : (fuel : Nat) → Act Nat → Act Ending
  | 0, _ => return .starved
  | fuel + 1, work => do
      match ← observe work with
      | .ok _ => conclude fuel .finished
      | .error stop => conclude fuel stop

/-- Ends the shell: what is arranged for its end is done, and so are its jobs. -/
def conclude : (fuel : Nat) → Stop → Act Ending
  | 0, _ => return .starved
  | fuel + 1, stop => do
      match stop with
      | .ended e =>
          let _ ← observe finishAll
          return e
      | _ =>
          reset stop
          let s ← get
          modify fun s => { s with finalStatus := some s.status }
          let result ← observe (do
            match s.traps.lookup 0 with
            | some action =>
                Builtin.setTrap 0 none
                let _ ← runText fuel ⟨false, false⟩ false action
            | none => pure ())
          match result with
          | .error (.ended e) =>
              let _ ← observe finishAll
              return e
          | _ =>
              reset (match result with
                | .ok () => .exit
                | .error stop => stop)
              let status := (← get).status
              let _ ← observe finishAll
              return .exited (status % 256)

/-- Runs a pipeline and gives how its last command ended.  What a command writes is all read by the
next one, or as much as has room at first; if that turns out to be too little for the next, both are
run again with more room. -/
def runPipeline : (fuel : Nat) → (input : Option Nat) → List Command → Act Ending
  | 0, _, _ => throw (.ended .starved)
  | _ + 1, _, [] => return .exited 0
  | fuel + 1, input, c :: rest => do
      let work := fun (output : Option Nat) => do
        match input with
        | some i => machine (Step.connect 0 i)
        | none => pure ()
        match output with
        | some i => machine (Step.connect 1 i)
        | none => pure ()
        ended fuel (run fuel ⟨false, true⟩ c)
      match rest with
      | [] =>
          let ending ← waitFor (work none)
          announce ending
          return ending
      | _ =>
          let flow := fun (room : Nat) (goesOn : Bool) => do
            let i ← machine (Step.newStream (.collector [] room))
            let (ending, writerWaits) ← waiting (subshell (work (some i)))
            announce ending
            let (_, isFull) ← drain i goesOn
            let (ending, readerWaits) ← waiting (runPipeline fuel (some i) rest)
            return (ending, isFull && goesOn && readerWaits, readerWaits || writerWaits && !isFull)
          let s ← get
          let (ending, isShort, waits) ← flow Step.firstRoom true
          if isShort then
            set s
            let (ending, _, waits) ← flow Step.pipeRoom false
            if waits then machine Step.await
            return ending
          else
            if waits then machine Step.await
            return ending

/-- Runs a command. -/
def run : (fuel : Nat) → Position → Command → Act Nat
  | 0, _, _ => throw (.ended .starved)
  | fuel + 1, position, c => do
      if !(← has 'n') then
        runTraps fuel
        let (status, counts) ← runKind fuel position c
        setStatus status
        runTraps fuel
        if counts && !position.tested && status ≠ 0 && (← has 'e') then throw .finished
      if position.last then throw .finished
      return (← get).status

/-- Runs a command, and says whether its failure may end the shell. -/
def runKind : (fuel : Nat) → Position → Command → Act (Nat × Bool)
  | 0, _, _ => throw (.ended .starved)
  | fuel + 1, position, c => do
      let setLine := fun (line : Nat) => modify fun s => { s with line := line }
      match c with
      | .simple line assignments ws redirects =>
          setLine line
          return (← runSimple fuel position assignments ws redirects, true)
      | .negated inner =>
          let status ← run fuel ⟨true, false⟩ inner
          return (if status = 0 then 1 else 0, false)
      | .both first second =>
          let status ← run fuel ⟨true, false⟩ first
          if status ≠ 0 ∨ (← isSkipping) then return (status, false)
          else return (← run fuel position second, false)
      | .either first second =>
          let status ← run fuel ⟨true, false⟩ first
          if status = 0 ∨ (← isSkipping) then return (status, false)
          else return (← run fuel position second, false)
      | .sequence first second =>
          let status ← run fuel ⟨position.tested, false⟩ first
          if ← isSkipping then return (status, false)
          else return (← run fuel position second, false)
      | .choice condition body otherwise =>
          let status ← run fuel ⟨true, false⟩ condition
          if ← isSkipping then return (status, false)
          else if status = 0 then return (← run fuel position body, false)
          else
            match otherwise with
            | some other => return (← run fuel position other, false)
            | none => return (0, false)
      | .loop untilTrue condition body =>
          modify fun s => { s with loops := s.loops + 1 }
          let turn := fun (status : Nat) => do
            let tested ← run fuel ⟨true, false⟩ condition
            let skipped ← isSkipping
            let goesOn ← skipLoop
            if skipped then
              let status := match (← get).skip with
                | .function true => tested
                | _ => status
              return (status, goesOn)
            else if (tested = 0) = untilTrue then return (status, false)
            else
              let status ← run fuel ⟨position.tested, false⟩ body
              return (status, ← skipLoop)
          let status ← iterate turn turnLimit 0
          modify fun s => { s with loops := s.loops - 1 }
          return (status, false)
      | .each line name ws body =>
          setLine line
          let fields ← argumentsOf fuel false ws
          modify fun s => { s with loops := s.loops + 1 }
          let turn := fun ((fields, status) : List Raw × Nat) => do
            match fields with
            | [] => return (([], status), false)
            | value :: rest =>
                assign name value
                let status ← run fuel ⟨position.tested, false⟩ body
                return ((rest, status), ← skipLoop)
          let (_, status) ← iterate turn (fields.length + 1) (fields, 0)
          modify fun s => { s with loops := s.loops - 1 }
          return (status, false)
      | .select line word clauses =>
          setLine line
          let subject ← textOf fuel .atFront word
          return (← runClauses fuel position subject clauses, false)
      | .define name body =>
          modify fun s => { s with
            functions := (name, body) :: s.functions.filter (·.1 ≠ name) }
          return (0, false)
      | .redirected line inner redirects =>
          setLine line
          let targets ← targetsOf fuel redirects
          let before ← channelsOf (targets.map (·.1))
          match ← observe (redirect fuel targets) with
          | .error .error =>
              putBack before
              return (2, true)
          | .error stop => throw stop
          | .ok () =>
              let status ← afterwards (run fuel ⟨position.tested, false⟩ inner) (putBack before)
              return (status, false)
      | .subshell line body redirects =>
          setLine line
          let targets ← targetsOf fuel redirects
          let work : Act Nat := do
            redirect fuel targets
            run fuel ⟨position.tested, true⟩ body
          if position.last && !(← hasTraps) then return (← work, true)
          else
            let ending ← waitFor (ended fuel work)
            announce ending
            return (ending.status, true)
      | .background line body redirects =>
          setLine line
          let targets ← targetsOf fuel redirects
          putOff (ended fuel (do
            redirect fuel targets
            run fuel ⟨false, true⟩ body))
          return (0, true)
      | .piped commands background =>
          if background then
            putOff (runPipeline fuel none commands)
            return (0, true)
          else return ((← runPipeline fuel none commands).status, true)

/-- Runs the body of the first clause that has a pattern for a text. -/
def runClauses : (fuel : Nat) → Position → (subject : Raw) →
    List (List Word × Option Command) → Act Nat
  | 0, _, _, _ => throw (.ended .starved)
  | _ + 1, _, _, [] => return 0
  | fuel + 1, position, subject, (patterns, body) :: rest => do
      if ← matchesAny fuel subject patterns then
        match body with
        | some c => run fuel position c
        | none => return 0
      else runClauses fuel position subject rest

/-- Whether one of some patterns matches a text. -/
def matchesAny : (fuel : Nat) → (subject : Raw) → List Word → Act Bool
  | 0, _, _ => throw (.ended .starved)
  | _ + 1, _, [] => return false
  | fuel + 1, subject, w :: rest => do
      let pattern ← expand fuel ⟨false, false, .atFront⟩ w
      if Pattern.isMatch (Pattern.ofMarks (Bit.marks pattern)) subject then return true
      else matchesAny fuel subject rest

end

end

end Bootstrap.Shell
