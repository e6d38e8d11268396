import Bootstrap.Shell.Source

/-!
# Words as they are spelled

A word is read character by character.  What a character means depends on the manner
of reading, and braces and parentheses inside a word have manners of their own: they
make a stack of frames.  Expansions that are not closed yet make a stack of levels,
each with the parts in front of it.

This module holds what a reader knows inside a word, and the steps that need nothing
but characters.  `Bootstrap.Shell.Reader` puts them together.
-/

namespace Bootstrap.Shell

/-- The manners of reading the characters of a word. -/
inductive Manner where
  | bare
  | double
  | single
  | arithmetic
  deriving DecidableEq, Repr

/-- A stretch of a word that is read in one manner, with what is open in it. -/
structure Frame where
  manner : Manner
  /-- Whether double quotes are around. -/
  isDouble : Bool
  /-- Whether double quotes were opened between braces. -/
  isInner : Bool
  /-- How many braces are open. -/
  braces : Nat
  /-- How many of them were opened between double quotes. -/
  doubleBraces : Nat
  /-- Whether the frame ends with its braces. -/
  ofBrace : Bool
  /-- How many parentheses are open. -/
  parentheses : Nat
  deriving DecidableEq, Repr

namespace Frame

/-- A frame with nothing open. -/
def ofManner (m : Manner) : Frame := ⟨m, m = .double ∨ m = .arithmetic, false, 0, 0, false, 0⟩

end Frame

/-- An expansion that is not closed yet. -/
inductive Opening where
  | parameter (quoted : Bool) (name : Raw) (use : Word → ParameterUse)
  | arithmetic (quoted : Bool)

/-- What is around an open expansion. -/
structure Level where
  opening : Opening
  /-- The parts in front of it, in reverse order. -/
  before : List Part
  /-- Whether a quotation is open in front of it. -/
  inQuotes : Bool
  /-- Whether everything in front of it counts as quoted. -/
  isCovered : Bool

/-- A word of which a part was read. -/
structure Spelling where
  top : Frame
  below : List Frame
  levels : List Level
  /-- The parts of the innermost level, in reverse order. -/
  parts : List Part
  inQuotes : Bool
  isCovered : Bool
  /-- Whether any of it was quoted. -/
  quoted : Bool
  /-- The delimiter that ends the text, and whether tabs in front of lines are skipped. -/
  here : Option (Raw × Bool)

namespace Spelling

/-- The beginning of a word. -/
def ofWord : Spelling := ⟨.ofManner .bare, [], [], [], false, false, false, none⟩

/-- The beginning of a text up to a delimiter. -/
def ofHere (a : Awaited) : Spelling :=
  ⟨.ofManner (if a.literal then .single else .double), [], [], [], false, true, false,
    some (a.delimiter, a.strips)⟩

/-- Whether expansions count as quoted. -/
def covers (s : Spelling) : Bool := s.isCovered || s.inQuotes

/-- Adds a character. -/
def add (s : Spelling) (quoted : Bool) (c : Char) : Spelling :=
  { s with parts := Reader.addChar quoted c s.parts }

/-- Adds a character as the present manner has it. -/
def addPlain (s : Spelling) (c : Char) : Spelling :=
  s.add (s.top.manner = .double ∨ s.top.manner = .single) c

/-- Adds a part. -/
def addPart (s : Spelling) (p : Part) : Spelling := { s with parts := p :: s.parts }

/-- Adds the mark of a quotation.  In a text up to a delimiter quotes have no meaning. -/
def toggle (s : Spelling) : Spelling :=
  if s.here.isSome then s
  else { s with parts := .mark :: s.parts, inQuotes := !s.inQuotes }

/-- Changes the innermost frame. -/
def frame (s : Spelling) (change : Frame → Frame) : Spelling := { s with top := change s.top }

/-- Goes on in a frame of its own. -/
def push (s : Spelling) (f : Frame) : Spelling := { s with top := f, below := s.top :: s.below }

/-- Goes back to the frame around. -/
def pop (s : Spelling) : Spelling :=
  match s.below with
  | f :: rest => { s with top := f, below := rest }
  | [] => s

/-- Opens an expansion; `covered` says whether what is in it counts as quoted. -/
def «open» (s : Spelling) (o : Opening) (covered : Bool) : Spelling :=
  { s with
    levels := ⟨o, s.parts, s.inQuotes, s.isCovered⟩ :: s.levels
    parts := []
    inQuotes := false
    isCovered := covered }

/-- Closes the innermost expansion. -/
def close (s : Spelling) : Spelling :=
  match s.levels with
  | [] => s
  | l :: rest =>
      let inner := Reader.wordOf s.parts
      let part := match l.opening with
        | .parameter quoted name use => Part.parameter quoted name (use inner)
        | .arithmetic quoted => .arithmetic quoted inner
      { s with levels := rest, parts := part :: l.before, inQuotes := l.inQuotes,
               isCovered := l.isCovered }

/-- A single quote opens. -/
def openSingle (s : Spelling) : Spelling := (s.frame ({ · with manner := .single })).toggle

/-- Notes that a double quote between braces changed sides. -/
def turn (f : Frame) : Frame := if f.braces = 0 then f else { f with isInner := !f.isInner }

/-- A double quote opens. -/
def openDouble (s : Spelling) : Spelling :=
  (s.frame fun f => turn { f with manner := .double, isDouble := true }).toggle

/-- A quote closes. -/
def closeQuote (s : Spelling) (c : Char) : Spelling :=
  if s.here.isSome && s.top.braces == 0 then s.addPlain c
  else
    let s := s.frame fun f =>
      if f.doubleBraces = 0 then { f with manner := .bare, isDouble := false } else f
    let s := { s with quoted := true }
    if c = '"' then (s.frame turn).toggle else s.toggle

/-- A brace closes; outside of an expansion it stands for itself. -/
def closeBrace (s : Spelling) : Spelling :=
  if s.top.isInner || s.top.braces == 0 then s.addPlain '}'
  else
    let f := { s.top with braces := s.top.braces - 1 }
    let s := { s with top := f }
    let s :=
      if f.braces = 0 ∧ f.ofBrace then s.pop
      else s.frame fun f => { f with doubleBraces := f.doubleBraces - 1 }
    s.close

/-- A character behind a backslash.  Between double quotes most characters are not protected, and
the backslash stays. -/
def escaped (s : Spelling) (c : Char) : Spelling :=
  let special := c = '\\' ∨ c = Reader.backquote ∨ c = '$' ∨
    (c = '"' ∧ !(s.here.isSome && s.top.braces == 0)) ∨ (c = '}' ∧ s.top.braces ≠ 0)
  let s := if s.top.isDouble && !special then s.add true '\\' else s
  { s.add true c with quoted := true }

/-- Opens the braces of a parameter.  A pattern is read in a manner of its own; anything else in the
manner around, as if between double quotes inside an arithmetic expression. -/
def openBrace (s : Spelling) (name : Raw) (use : Word → ParameterUse) (isPattern keeps : Bool) :
    Spelling :=
  let manner := if isPattern then Manner.bare
    else if s.top.manner = .arithmetic then .double else s.top.manner
  let s' := s.open (.parameter s.covers name use) (keeps && s.covers)
  let s' :=
    if manner ≠ s.top.manner ∨ s.top.isInner then
      s'.push { Frame.ofManner manner with isDouble := manner ≠ .bare, ofBrace := true }
    else s'
  s'.frame fun f => { f with
    braces := f.braces + 1
    doubleBraces := if f.isDouble then f.doubleBraces + 1 else f.doubleBraces }

/-- What is wrong at the end of the word, if it may not end here. -/
def fault? (s : Spelling) : Option Raw :=
  if s.top.manner = .arithmetic then some (raw "Missing '))'")
  else if s.top.manner ≠ .bare ∧ s.here.isNone then some (raw "Unterminated quoted string")
  else if s.top.braces ≠ 0 then some (raw "Missing '\x7d'")
  else none

end Spelling

namespace Reader

/-- Whether a character names a special parameter. -/
def isSpecial (c : Char) : Bool := "@*#?-$!".toList.contains c

/-- Whether a character ends a bare word. -/
def endsWord (c : Char) : Bool := " \t\n;&|<>()".toList.contains c

/-- The operator of a parameter's use, behind its colon if it has one. -/
def useOf (orEmpty : Bool) : Char → Option ((Word → ParameterUse) × Bool)
  | '-' => some (.otherwise orEmpty, true)
  | '=' => some (.assigned orEmpty, false)
  | '?' => some (.demanded orEmpty, false)
  | '+' => some (.instead orEmpty, true)
  | _ => none

/-- The name of a parameter in braces, and whether its length is asked for.  A number sign in front
of a name asks for the length; alone it is the number of positional parameters. -/
def bracedName (fuel : Nat) : ReadStep (Option (Raw × Bool)) := do
  match ← joined? fuel with
  | none => return none
  | some c =>
      if Word.isNameStart c then return some (c :: (← takeWhile Word.isNameChar fuel), false)
      else if c.isDigit then return some (c :: (← takeWhile Char.isDigit fuel), false)
      else if c = '#' then
        match ← joined? fuel with
        | none => return some (['#'], false)
        | some d =>
            if Word.isNameStart d then return some (d :: (← takeWhile Word.isNameChar fuel), true)
            else if d.isDigit then return some (d :: (← takeWhile Char.isDigit fuel), true)
            else
              let e? ← joined? fuel
              putBack e?
              if d ≠ '}' ∧ e? = some '}' then
                if isSpecial d then return some ([d], true)
                else putBack (some d); return none
              else putBack (some d); return some (['#'], false)
      else if isSpecial c then return some ([c], false)
      else putBack (some c); return none

/-- Reads what follows the opening brace of a parameter. -/
def parameterUse (fuel : Nat) (s : Spelling) : ReadStep Spelling := do
  match ← bracedName fuel with
  | none => return s.openBrace [] (fun _ => .malformed) false false
  | some (name, true) =>
      let c? ← joined? fuel
      putBack c?
      if c? = some '}' then return s.openBrace name (fun _ => .length) false false
      else return s.openBrace name (fun _ => .malformed) false false
  | some (name, false) =>
      match ← joined? fuel with
      | none => return s.openBrace name (fun _ => .malformed) false false
      | some '}' => return s.addPart (.parameter s.covers name .value)
      | some ':' =>
          match ← joined? fuel with
          | none => return s.openBrace name (fun _ => .malformed) false false
          | some '}' => return s.openBrace name (fun _ => .value) false false
          | some c =>
              match useOf true c with
              | some (use, keeps) => return s.openBrace name use false keeps
              | none => return s.openBrace name (fun _ => .malformed) false false
      | some c =>
          if c = '#' ∨ c = '%' then
            let d? ← joined? fuel
            let longest := d? = some c
            if !longest then putBack d?
            let use := if c = '#' then ParameterUse.withoutFront longest
              else .withoutBack longest
            return s.openBrace name use true false
          else
            match useOf false c with
            | some (use, keeps) => return s.openBrace name use false keeps
            | none => return s.openBrace name (fun _ => .malformed) false false

/-- The text up to a closing backquote.  A backslash protects some characters in it. -/
def backquotedText (isDouble : Bool) : (fuel : Nat) → (latest : Raw) → ReadStep Raw
  | 0, latest => return latest.reverse
  | fuel + 1, latest => do
      match ← joined? fuel with
      | none => fail (raw "EOF in backquote substitution")
      | some c =>
          if c = backquote then return latest.reverse
          else if c = '\\' then
            match ← take? with
            | none => backquotedText isDouble fuel ('\\' :: latest)
            | some d =>
                if d = '\\' ∨ d = backquote ∨ d = '$' ∨ (isDouble ∧ d = '"') then
                  backquotedText isDouble fuel (d :: latest)
                else backquotedText isDouble fuel (d :: '\\' :: latest)
          else backquotedText isDouble fuel (c :: latest)

/-- Skips tabs. -/
def skipTabs : (fuel : Nat) → ReadStep Unit
  | 0 => pure ()
  | fuel + 1 => do
      match ← ahead? with
      | some '\t' => advance; skipTabs fuel
      | _ => pure ()

/-- Everything that is left to read. -/
def allAhead : ReadStep Raw := do
  let s ← get
  return s.insets.flatMap Inset.rest ++ s.rest

/-- Takes some characters. -/
def takeMany : (count : Nat) → ReadStep Unit
  | 0 => pure ()
  | count + 1 => do
      let _ ← take?
      takeMany count

/-- At the beginning of a line: takes the delimiter of a text if the line is that, and says so. -/
def atDelimiter (s : Spelling) (fuel : Nat) : ReadStep Bool := do
  match s.here with
  | none => return false
  | some (delimiter, strips) =>
      if strips then skipTabs fuel
      let ahead := (← allAhead).take (delimiter.length + 1)
      if delimiter.isPrefixOf ahead then
        match ahead.drop delimiter.length with
        | [] => takeMany delimiter.length; return true
        | '\n' :: _ => takeMany (delimiter.length + 1); return true
        | _ => return false
      else return false

/-- Reads the operator of a redirection. -/
def redirectOperator (fuel : Nat) : ReadStep RedirectOperator := do
  let first? ← joined? fuel
  let second? ← joined? fuel
  if first? = some '>' then
    match second? with
    | some '>' => return .toFileEnd
    | some '|' => return .toFileAtAnyRate
    | some '&' => return .copyOut
    | c? => putBack c?; return .toFile
  else
    match second? with
    | some '<' =>
        let third? ← joined? fuel
        if third? = some '-' then return .fromText true
        else putBack third?; return .fromText false
    | some '&' => return .copyIn
    | some '>' => return .both
    | c? => putBack c?; return .fromFile

end Reader

end Bootstrap.Shell
