import Bootstrap.Utility.Arguments

/-!
# Utilities that pass text on

They copy their inputs to the standard output: all of it, its first or last part,
or in another order.
-/

namespace Bootstrap.Utility

open Machine

/-! ## Whole inputs -/

/-- How text is shown by `cat`. -/
structure CatStyle where
  numbersAll : Bool
  numbersFilled : Bool
  marksEnds : Bool
  marksTabs : Bool
  marksHidden : Bool
  squeezes : Bool

/-- Where `cat` stands in what it shows. -/
structure CatPlace where
  atStart : Bool
  number : Nat
  /-- Whether the line before was empty. -/
  afterEmpty : Bool
  /-- What is shown, the latest first. -/
  latest : Raw

/-- A character that can be seen, in place of one that cannot. -/
def visible (n : Nat) : Raw :=
  if 128 ≤ n then raw "M-" ++ seen (n - 128) else seen n
where
  /-- The same for a character of seven bits. -/
  seen (n : Nat) : Raw :=
    if n < 32 then ['^', Char.ofNat (n + 64)] else if n = 127 then raw "^?" else [Char.ofNat n]

/-- How a character within a line is shown. -/
def CatStyle.show (s : CatStyle) (c : Char) : Raw :=
  if c = '\t' then if s.marksTabs then raw "^I" else [c]
  else if s.marksHidden then visible c.toNat
  else [c]

/-- Shows one more character. -/
def CatStyle.step (s : CatStyle) (p : CatPlace) (c : Char) : CatPlace :=
  let isEmpty := p.atStart && c == '\n'
  if isEmpty && s.squeezes && p.afterEmpty then p
  else
    let numbered := p.atStart && (s.numbersFilled && !isEmpty || s.numbersAll && !s.numbersFilled)
    let label := if numbered then Raw.padLeft 6 (Raw.ofNat p.number) ' ' ++ ['\t'] else []
    let shown := if c = '\n' then (if s.marksEnds then raw "$\n" else [c]) else s.show c
    { atStart := c == '\n'
      number := if numbered then p.number + 1 else p.number
      afterEmpty := if p.atStart then isEmpty else false
      latest := (label ++ shown).reverse ++ p.latest }

/-- The options of `cat`. -/
def catOptions : Options :=
  ⟨"AbeEnstTuv",
    [("show-all", .none, "A"), ("number-nonblank", .none, "b"), ("show-ends", .none, "E"),
      ("number", .none, "n"), ("squeeze-blank", .none, "s"), ("show-tabs", .none, "T"),
      ("show-nonprinting", .none, "v")], false⟩

/-- The stream that an input is read from. -/
def inputStream? (name : Raw) : Step (Option Stream) := do
  if name = ['-'] then return (← Step.stream? 0).map (·.2)
  else
    match ← Step.openInput name with
    | .ok i => return (← get).common.streams[i]?
    | .error _ => return none

/-- Whether a name leads to the file that the standard output is written to, of which there is
something left to read. -/
def isOutputFile (name : Raw) : Step Bool := do
  match ← inputStream? name, ← Step.stream? 1 with
  | some (.file a offset _ _ _), some (_, .file b _ _ _ _) =>
      let size := (((← Step.files).file? a).map fun f => f.content.length).getD 0
      return a == b && offset < size
  | _, _ => return false

/-- Copies its inputs. -/
def cat (words : List Raw) : Step Nat := do
  let a ← arguments 1 catOptions words
  let style : CatStyle :=
    { numbersAll := a.has "n"
      numbersFilled := a.has "b"
      marksEnds := a.hasAny ["A", "e", "E"]
      marksTabs := a.hasAny ["A", "t", "T"]
      marksHidden := a.hasAny ["A", "e", "t", "v"]
      squeezes := a.has "s" }
  let isPlain := !a.hasAny ["A", "b", "e", "E", "n", "s", "t", "T", "v"]
  if (← Step.stream? 1).isNone then
    Step.complain (raw "standard output: " ++ raw Errno.badDescriptor.strerror)
    return 1
  else
    let (_, status) ← a.inputs.foldlM (fun (place, status) name => do
      if ← isOutputFile name then
        Step.complain (NameQuoted.asNeeded name ++ raw ": input file is output file")
        return (place, 1)
      else
        match ← input name with
        | .error e => complainAbout name e; return (place, 1)
        | .ok text =>
            let after := if isPlain then { place with latest := text.reverse }
              else text.foldl style.step { place with latest := [] }
            match ← Step.write 1 after.latest.reverse with
            | .ok () => return (after, status)
            | .error e =>
                Step.complain (raw "write error: " ++ raw e.strerror)
                Step.exit 1)
      ((⟨true, 1, false, []⟩ : CatPlace), 0)
    return status

/-- Copies the standard input to files and to the standard output. -/
def tee (words : List Raw) : Step Nat := do
  let a ← arguments 1 ⟨"aip", [("append", .none, "a"), ("ignore-interrupts", .none, "i")], false⟩ words
  let kind := if a.has "a" then Step.Output.atEnd else Step.Output.afresh
  let (targets, status) ← a.operands.foldlM (fun (targets, status) name => do
    match ← Step.openOutput name kind with
    | .ok i => return (targets ++ [(name, i)], status)
    | .error e => complainAbout name e; return (targets, 1)) (([] : List (Raw × Nat)), 0)
  match ← Step.readAll 0 with
  | .error e =>
      Step.complain (raw "read error: " ++ raw e.strerror)
      return 1
  | .ok text =>
      if text.isEmpty then return status
      else
        let first ← match ← Step.write 1 text with
          | .ok () => pure 0
          | .error e =>
              Step.complain (raw "'standard output': " ++ raw e.strerror)
              pure 1
        targets.foldlM (fun status (name, i) => do
          match (← get).common.streams[i]? with
          | none => return status
          | some s =>
              match ← Step.writeTo i s text with
              | .ok () => return status
              | .error e => complainAbout name e; return 1) (max status first)

/-! ## Parts -/

/-- A part of a text, at its front or at its back. -/
structure Part where
  inBytes : Bool
  count : Nat
  /-- Whether everything but so much is meant. -/
  isRest : Bool
  /-- What ends a line. -/
  ending : Char

namespace Part

/-- The first units of a text, or all but the last. -/
def atFront (p : Part) (text : Raw) : Raw :=
  let units := fun (total : Nat) => if p.isRest then total - p.count else p.count
  if p.inBytes then text.take (units text.length)
  else
    let lines := Raw.endedRecords p.ending text
    (lines.take (units lines.length)).flatten

/-- The last units of a text, or everything from a unit on. -/
def atBack (p : Part) (text : Raw) : Raw :=
  let units := fun (total : Nat) => if p.isRest then p.count - 1 else total - p.count
  if p.inBytes then text.drop (units text.length)
  else
    let lines := Raw.endedRecords p.ending text
    (lines.drop (units lines.length)).flatten

end Part

/-- Options in which a number alone stands for so many lines. -/
def withNumbers (words : List Raw) : List Raw :=
  match words with
  | ('-' :: c :: text) :: rest =>
      let digits := (c :: text).takeWhile Char.isDigit
      if digits.isEmpty then words
      else
        let letters := (c :: text).drop digits.length
        let unit := if letters.contains 'c' then raw "-c" else raw "-n"
        let quiet := if letters.contains 'q' then [raw "-q"] else []
        let loud := if letters.contains 'v' then [raw "-v"] else []
        quiet ++ loud ++ unit :: digits :: rest
  | _ => words

/-- The options of `head` and `tail`. -/
def partOptions : Options :=
  ⟨"n:c:qvzfF",
    [("lines", .required, "n"), ("bytes", .required, "c"), ("quiet", .none, "q"),
      ("silent", .none, "q"), ("verbose", .none, "v"), ("zero-terminated", .none, "z")], false⟩

/-- The part that options ask for; `sign` in front of the number asks for the rest. -/
def partOf (sign : Char) (a : Arguments) : Step Part := do
  let inBytes := a.lastOf ["n", "c"] == some "c"
  let ending := if a.has "z" then Raw.byte 0 else '\n'
  let asked := (a.value? (if inBytes then "c" else "n")).getD (raw "10")
  let (isRest, number) := match asked with
    | c :: rest => if c = sign then (true, rest) else if c = '-' then (false, rest) else (false, asked)
    | [] => (false, asked)
  match count? number with
  | some n => return ⟨inBytes, n, isRest, ending⟩
  | none =>
      Step.complain (raw "invalid number of " ++ raw (if inBytes then "bytes" else "lines") ++
        raw ": " ++ NameQuoted.always number)
      Step.exit 1

/-- Prints a part of each input, with its name above it if there are several. -/
def parts (sign : Char) (words : List Raw) (one : Part → Raw → Step (Except Errno Raw)) :
    Step Nat := do
  let a ← arguments 1 partOptions (withNumbers words)
  let p ← partOf sign a
  let headed := match a.lastOf ["q", "v"] with
    | some "q" => false
    | some _ => true
    | none => 1 < a.operands.length
  let (_, status) ← a.inputs.foldlM (fun (isFirst, status) name => do
    let title : Raw := if name = ['-'] then raw "standard input" else name
    let header := (if isFirst then [] else ['\n']) ++ raw "==> " ++ title ++ raw " <==\n"
    match ← one p name with
    | .ok text =>
        if headed then Step.printLater header
        Step.printLater text
        return (false, status)
    | .error e =>
        if isReadFault e then
          if headed then Step.printLater header
          Step.complain (raw "error reading " ++ NameQuoted.always title ++ raw ": " ++ raw e.strerror)
          return (false, 1)
        else
          Step.complain (raw "cannot open " ++ NameQuoted.always title ++ raw " for reading: " ++
            raw e.strerror)
          return (isFirst, 1)) (true, 0)
  return status

/-- How much is read from a pipe at once. -/
def pipeBlock : Nat := 8192

/-- Prints the front of its inputs.  Of the standard input no more is taken than that, if it can be
given back. -/
def head (words : List Raw) : Step Nat :=
  parts '-' words fun p name => do
    let most := if p.inBytes && !p.isRest then p.count else Step.endless
    if name ≠ ['-'] then return (← Step.readFile name most).map p.atFront
    else
      match ← Step.ahead 0 most with
      | .error e => return .error e
      | .ok text =>
          let part := p.atFront text
          if p.inBytes && !p.isRest then Step.skip 0 part.length
          else if p.isRest && !(← Step.isSeekable 0) then Step.skip 0 text.length
          else takeInput pipeBlock part.length
          return .ok part

/-- Prints the back of its inputs. -/
def tail (words : List Raw) : Step Nat :=
  parts '+' words fun p name => do
    return (← input name).map p.atBack

/-! ## Other orders -/

/-- Prints the lines of its inputs, the last first. -/
def tac (words : List Raw) : Step Nat := do
  let a ← arguments 1 ⟨"brs:", [("separator", .required, "s"), ("before", .none, "b")], false⟩ words
  let ending := ((a.value? "s").getD ['\n']).headD '\n'
  onInputs 1 (Wording.mk
      (fun n => raw "failed to open " ++ NameQuoted.always n ++ raw " for reading")
      (fun n => NameQuoted.asNeeded n ++ raw ": read error")) a.inputs fun _ text =>
    Step.printLater (Raw.endedRecords ending text).reverse.flatten

/-- Prints the lines of its inputs with their characters turned round. -/
def rev (words : List Raw) : Step Nat := do
  let a ← arguments 1 (plainOptions "0") words
  onInputs 1 (.behind "cannot open " "") a.inputs fun _ text =>
    Step.printLater ((Raw.endedRecords '\n' text).flatMap fun line =>
      if line.getLast? = some '\n' then line.dropLast.reverse ++ ['\n'] else line.reverse)

end Bootstrap.Utility
