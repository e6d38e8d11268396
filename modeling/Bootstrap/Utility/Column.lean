import Bootstrap.Utility.Arguments

/-!
# Utilities on parts of lines

They cut stretches out of lines, put lines side by side, and break lines that are too
wide.
-/

namespace Bootstrap.Utility

open Machine

/-! ## Cutting -/

/-- A range of positions, which go on to the end of the line if it has no last one. -/
structure Span where
  first : Nat
  last : Option Nat

/-- Whether a position is in one of some ranges. -/
def Span.cover (spans : List Span) (position : Nat) : Bool :=
  spans.any fun s => s.first ≤ position && (s.last.map fun n => decide (position ≤ n)).getD true

/-- Reads a range of positions; `one` and `many` are what they count. -/
def Span.ofText (one many : String) (text : Raw) : Except Raw Span := do
  let numbered := raw many ++ raw " are numbered from 1"
  let wrong := raw "invalid " ++ raw one ++ raw " value " ++ NameQuoted.always text
  let position := fun (digits : Raw) =>
    match Raw.digits? digits with
    | some 0 => .error numbered
    | some n => .ok n
    | none => .error wrong
  match text with
  | [] => .error numbered
  | ['-'] => .error (raw "invalid range with no endpoint: -")
  | _ =>
      match text.splitOn '-' with
      | [digits] => do
          let n ← position digits
          return ⟨n, some n⟩
      | [first, last] => do
          let m ← if first.isEmpty then .ok 1 else position first
          if last.isEmpty then return ⟨m, none⟩
          else
            let n ← match Raw.digits? last with
              | some n => .ok n
              | none => .error wrong
            if n < m then .error (raw "invalid decreasing range") else return ⟨m, some n⟩
      | _ => .error (raw "invalid " ++ raw one ++ raw " range")

/-- Reads ranges between commas or blanks. -/
def Span.listOfText (one many : String) (text : Raw) : Except Raw (List Span) :=
  ((text.map fun c => if c = ' ' ∨ c = '\t' then ',' else c).splitOn ',').mapM
    (Span.ofText one many)

/-- The options of `cut`. -/
def cutOptions : Options :=
  ⟨"b:c:f:d:nsz",
    [("bytes", .required, "b"), ("characters", .required, "c"), ("fields", .required, "f"),
      ("delimiter", .required, "d"), ("only-delimited", .none, "s"),
      ("complement", .none, "complement"), ("output-delimiter", .required, "between"),
      ("zero-terminated", .none, "z")], false⟩

/-- The characters of a line at wanted positions; stretches that are not neighbours are kept apart by
a text. -/
def cutCharacters (wanted : Nat → Bool) (between line : Raw) : Raw :=
  let (_, kept, _) := line.foldl (fun (position, kept, last) c =>
    if wanted position then
      let gap := if kept.isEmpty ∨ last + 1 = position then [] else between.reverse
      (position + 1, c :: (gap ++ kept), position)
    else (position + 1, kept, last)) ((1 : Nat), ([] : Raw), (0 : Nat))
  kept.reverse

/-- Prints parts of the lines of its inputs. -/
def cut (words : List Raw) : Step Nat := do
  let a ← arguments 1 cutOptions words
  let lists := a.options.filter fun o => ["b", "c", "f"].contains o.1
  match lists with
  | [] => misuse 1 (raw "you must specify a list of bytes, characters, or fields")
  | _ :: _ :: _ => misuse 1 (raw "only one list may be specified")
  | [(key, list)] =>
      let byField := key == "f"
      let delimiter := (a.value? "d").getD ['\t']
      if 1 < delimiter.length then misuse 1 (raw "the delimiter must be a single character")
      else if a.has "d" ∧ !byField then
        misuse 1 (raw "an input delimiter may be specified only when operating on fields")
      else if a.has "s" ∧ !byField then
        misuse 1 (raw "suppressing non-delimited lines makes sense\n\tonly when operating on fields")
      else
        let spans ← match Span.listOfText (if byField then "field" else "byte or character")
            (if byField then "fields" else "byte/character positions") list with
          | .ok spans => pure spans
          | .error message =>
              misuse 1 (if byField then message else
                if (raw "invalid byte or character value").isPrefixOf message then
                  raw "invalid byte/character position " ++ message.drop 32
                else message)
        let wanted := fun position => Span.cover spans position != a.has "complement"
        let separator := delimiter.headD (Raw.byte 0)
        let between := (a.value? "between").getD (if byField then [separator] else [])
        let ending := if a.has "z" then Raw.byte 0 else '\n'
        onInputs 1 .plain a.inputs fun _ text =>
          Step.printLater ((Raw.records ending text).flatMap fun line =>
            if !byField then cutCharacters wanted between line ++ [ending]
            else if !line.contains separator then
              if a.has "s" then [] else line ++ [ending]
            else
              let fields := (line.splitOn separator).zipIdx.filter fun f => wanted (f.2 + 1)
              Raw.joined between (fields.map (·.1)) ++ [ending])

/-! ## Side by side -/

/-- The delimiters that a list names, in turn. -/
def delimitersOf : (fuel : Nat) → Raw → List Raw
  | 0, _ | _, [] => []
  | fuel + 1, '\\' :: c :: rest =>
      let d : Raw := match c with
        | 'n' => ['\n']
        | 't' => ['\t']
        | '0' => []
        | c => [c]
      d :: delimitersOf fuel rest
  | fuel + 1, c :: rest => [c] :: delimitersOf fuel rest

/-- Texts with delimiters between them, which are used in turn. -/
def pasted (delimiters : List Raw) : (turn : Nat) → List Raw → Raw
  | _, [] => []
  | _, [text] => text
  | turn, text :: rest =>
      text ++ delimiters.getD (turn % delimiters.length) [] ++ pasted delimiters (turn + 1) rest

/-- Every so many-th line from the front on. -/
def everyNth (count : Nat) (lines : List Raw) (offset : Nat) : List Raw :=
  (lines.zipIdx.filter fun l => l.2 % count == offset).map (·.1)

/-- The lines of the operands; those that stand for the standard input share its lines. -/
def columnsOf (operands : List Raw) (shared : List Raw) (files : List (Raw × List Raw)) :
    List (List Raw) :=
  let dashes := operands.filter (· = ['-'])
  (operands.foldl (fun (columns, seen) name =>
    if name = ['-'] then (everyNth dashes.length shared seen :: columns, seen + 1)
    else ((files.lookup name).getD [] :: columns, seen)) (([] : List (List Raw)), 0)).1.reverse

/-- Puts the lines of its inputs side by side, or the lines of each input into one. -/
def paste (words : List Raw) : Step Nat := do
  let a ← arguments 1 ⟨"d:sz",
    [("delimiters", .required, "d"), ("serial", .none, "s"), ("zero-terminated", .none, "z")],
    false⟩ words
  let list := (a.value? "d").getD ['\t']
  let delimiters := if list.isEmpty then [[]] else delimitersOf list.length list
  let ending := if a.has "z" then Raw.byte 0 else '\n'
  if a.has "s" then
    onInputs 1 .plain a.inputs fun _ text =>
      Step.printLater (pasted delimiters 0 (Raw.records ending text) ++ [ending])
  else
    let shared ← if a.inputs.contains ['-'] then
        match ← Step.readAll 0 with
        | .ok text => pure (Raw.records ending text)
        | .error _ => pure []
      else pure []
    let files ← (a.inputs.filter (· ≠ ['-'])).mapM fun name => do
      match ← Step.readFile name with
      | .ok text => return (name, Raw.records ending text)
      | .error e => complainAbout name e; Step.exit 1
    let columns := columnsOf a.inputs shared files
    let height := columns.foldl (fun n c => max n c.length) 0
    Step.printLater ((List.range height).flatMap fun i =>
      pasted delimiters 0 (columns.map fun c => c.getD i []) ++ [ending])
    return 0

/-! ## Wide lines -/

/-- The column behind a character. -/
def columnBehind (inBytes : Bool) (column : Nat) (c : Char) : Nat :=
  if inBytes then column + 1
  else if c = '\t' then column / 8 * 8 + 8
  else if c.toNat = 8 then column - 1
  else if c = '\r' then 0
  else column + 1

/-- Breaks a line into pieces of a width; `piece` is the present one, the latest first.  `fuel`
bounds the number of steps. -/
def broken (inBytes atBlanks : Bool) (width : Nat) :
    (fuel : Nat) → (piece : Raw) → (column : Nat) → Raw → List Raw
  | 0, piece, _, _ | _, piece, _, [] => [piece.reverse]
  | fuel + 1, piece, column, c :: rest =>
      let next := columnBehind inBytes column c
      if width < next ∧ !piece.isEmpty then
        let tail := piece.takeWhile fun d => d ≠ ' ' ∧ d ≠ '\t'
        if atBlanks ∧ tail.length < piece.length then
          let columnOf := tail.reverse.foldl (columnBehind inBytes) 0
          (piece.drop tail.length).reverse ::
            broken inBytes atBlanks width fuel tail columnOf (c :: rest)
        else piece.reverse :: broken inBytes atBlanks width fuel [] 0 (c :: rest)
      else broken inBytes atBlanks width fuel (c :: piece) next rest

/-- Breaks the lines of its inputs. -/
def fold (words : List Raw) : Step Nat := do
  let words := match words with
    | ('-' :: c :: digits) :: rest =>
        if c.isDigit then raw "-w" :: (c :: digits) :: rest else words
    | _ => words
  let a ← arguments 1 ⟨"bsw:",
    [("bytes", .none, "b"), ("spaces", .none, "s"), ("width", .required, "w")], false⟩ words
  let asked := (a.value? "w").getD (raw "80")
  match Raw.digits? asked with
  | none | some 0 =>
      Step.complain (raw "invalid number of columns: " ++ NameQuoted.always asked ++
        if asked = ['0'] then raw ": Numerical result out of range" else [])
      return 1
  | some width =>
      onInputs 1 .plain a.inputs fun _ text =>
        Step.printLater ((Raw.endedRecords '\n' text).flatMap fun line =>
          let body := if line.getLast? = some '\n' then line.dropLast else line
          Raw.joined ['\n'] (broken (a.has "b") (a.has "s") width (3 * body.length + 1) [] 0 body) ++
            if body.length < line.length then ['\n'] else [])

/-- Puts blanks in place of tabs. -/
def expand (words : List Raw) : Step Nat := do
  let a ← arguments 1 ⟨"it:", [("initial", .none, "i"), ("tabs", .required, "t")], false⟩ words
  let every := max 1 (((a.value? "t").bind Raw.digits?).getD 8)
  onInputs 1 .plain a.inputs fun _ text =>
    let (shown, _, _) := text.foldl (fun (shown, column, initial) c =>
      if c = '\t' ∧ (initial ∨ !a.has "i") then
        let width := every - column % every
        (List.replicate width ' ' ++ shown, column + width, initial)
      else if c = '\n' then (c :: shown, 0, true)
      else (c :: shown, column + 1, initial && c == ' ')) (([] : Raw), (0 : Nat), true)
    Step.printLater shown.reverse

end Bootstrap.Utility
