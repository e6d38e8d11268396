import Bootstrap.Text.Pattern
import Bootstrap.Utility.Arguments

/-!
# Translating characters

Two sets of characters are written with ranges, classes, repetitions and escapes.  The
characters of the first set are replaced by those of the second at the same place,
or removed; runs of one character may be squeezed into one.
-/

namespace Bootstrap.Utility

open Machine

/-- A part of a set. -/
inductive SetPart where
  | characters (cs : Raw)
  /-- The characters of a class, by its name. -/
  | named (name : Raw)
  /-- A character so many times, or as often as it is needed. -/
  | filled (c : Char) (count : Option Nat)
  deriving DecidableEq, Repr

namespace SetPart

/-- All bytes. -/
def allBytes : Raw := (List.range 256).map Char.ofNat

/-- The characters of a part that is as long as it has to be; `room` is left for all that fills. -/
def expand (room : Nat) : SetPart → Raw
  | characters cs => cs
  | named name => allBytes.filter fun c => ((characterClass? name).map (· c)).getD false
  | filled c (some n) => List.replicate n c
  | filled c none => List.replicate room c

/-- A character of a set as it is written: whether it stands behind a backslash, and what follows
it. -/
def character? (text : Raw) : Option (Char × Bool × Raw) :=
  match text with
  | [] => none
  | '\\' :: c :: rest =>
      let digits := ((c :: rest).take 3).takeWhile fun d => (Raw.digit? 8 d).isSome
      match Raw.inBase? 8 digits with
      | some n =>
          let digits := if 255 < n then digits.take 2 else digits
          some (Raw.byte ((Raw.inBase? 8 digits).getD 0), true, (c :: rest).drop digits.length)
      | none =>
          let d := match c with
            | 'a' => Char.ofNat 7
            | 'b' => Char.ofNat 8
            | 'f' => Char.ofNat 12
            | 'n' => '\n'
            | 'r' => '\r'
            | 't' => '\t'
            | 'v' => Char.ofNat 11
            | c => c
          some (d, true, rest)
  | c :: rest => some (c, false, rest)

/-- The class or the equivalence that is named in brackets, and what follows it. -/
def named? (mark : Char) (text : Raw) : Option (Raw × Raw) :=
  let name := text.takeWhile (· ≠ mark)
  match text.drop name.length with
  | _ :: ']' :: rest => some (name, rest)
  | _ => none

/-- A character that is repeated in brackets, and what follows it. -/
def filled? (text : Raw) : Option (SetPart × Raw) := do
  let (c, _, rest) ← character? text
  match rest with
  | '*' :: rest =>
      let digits := rest.takeWhile Char.isDigit
      match rest.drop digits.length with
      | ']' :: rest =>
          let base := if digits.head? = some '0' then 8 else 10
          let count := (Raw.inBase? base digits).bind fun n => if n = 0 then none else some n
          return (.filled c count, rest)
      | _ => none
  | _ => none

/-- Reads the parts of a set; `fuel` bounds their number. -/
def read : (fuel : Nat) → Raw → Except Raw (List SetPart)
  | 0, _ | _, [] => .ok []
  | fuel + 1, text => do
      let plain := fun (text : Raw) =>
        match character? text with
        | none => .ok []
        | some (c, _, rest) =>
            match rest with
            | '-' :: more@(_ :: _) =>
                match character? more with
                | some (d, _, rest) =>
                    if d.toNat < c.toNat then
                      .error (raw "range-endpoints of '" ++ [c, '-', d] ++
                        raw "' are in reverse collating sequence order")
                    else do
                      let span := (List.range (d.toNat - c.toNat + 1)).map fun i =>
                        Char.ofNat (c.toNat + i)
                      return .characters span :: (← read fuel rest)
                | none => do return .characters [c] :: (← read fuel rest)
            | _ => do return .characters [c] :: (← read fuel rest)
      match text with
      | '[' :: ':' :: inner =>
          match named? ':' inner with
          | some (name, rest) =>
              if (characterClass? name).isSome then return .named name :: (← read fuel rest)
              else .error (raw "invalid character class " ++ NameQuoted.always name)
          | none => plain text
      | '[' :: '=' :: inner =>
          match named? '=' inner with
          | some ([c], rest) => return .characters [c] :: (← read fuel rest)
          | _ => plain text
      | '[' :: inner =>
          match filled? inner with
          | some (part, rest) => return part :: (← read fuel rest)
          | none => plain text
      | _ => plain text

/-- The characters of all parts, which are `length` in number if something fills. -/
def expandAll (length : Nat) (parts : List SetPart) : Raw :=
  let fixed := (parts.flatMap (expand 0)).length
  parts.flatMap (expand (length - fixed))

/-- Whether a set ends in a class. -/
def endsInClass (parts : List SetPart) : Bool :=
  match parts.getLast? with
  | some (.named _) => true
  | _ => false

end SetPart

/-- A text in which runs of one of some characters are squeezed into one. -/
def squeezed (isSqueezed : Array Bool) (text : Raw) : Raw :=
  (text.foldl (fun (kept : Raw) c =>
    if kept.head? = some c ∧ isSqueezed.getD c.toNat false then kept else c :: kept) []).reverse

/-- Which bytes are in a set. -/
def membership (cs : Raw) : Array Bool :=
  cs.foldl (fun table c => table.setIfInBounds c.toNat true) (Array.replicate 256 false)

/-- The options of `tr`. -/
def translateOptions : Options :=
  ⟨"cCdst",
    [("complement", .none, "c"), ("delete", .none, "d"), ("squeeze-repeats", .none, "s"),
      ("truncate-set1", .none, "t")], true⟩

/-- Ends `tr` for a wrong number of sets, with a line that says how many are needed. -/
def wrongSets {α : Type} (text : Raw) (line : String) : Step α := do
  Step.complain text
  if !line.isEmpty then Step.errorLine (raw line)
  giveUp 1

/-- Reads a set. -/
def setOf (text : Raw) : Step (List SetPart) := do
  match SetPart.read (text.length + 1) text with
  | .ok parts => return parts
  | .error message =>
      Step.complain message
      Step.exit 1

/-- Prints the standard input with its characters translated. -/
def tr (words : List Raw) : Step Nat := do
  let a ← arguments 1 translateOptions words
  let deletes := a.has "d"
  let squeezes := a.has "s"
  let complements := a.hasAny ["c", "C"]
  match a.operands with
  | [] => missingOperand 1
  | [only] =>
      if deletes && squeezes then
        wrongSets (raw "missing operand after " ++ NameQuoted.always only)
          "Two strings must be given when both deleting and squeezing repeats."
      else if !deletes && !squeezes then
        wrongSets (raw "missing operand after " ++ NameQuoted.always only)
          "Two strings must be given when translating."
  | [_, second] =>
      if deletes && !squeezes then
        wrongSets (raw "extra operand " ++ NameQuoted.always second)
          "Only one string may be given when deleting without squeezing repeats."
  | _ :: _ :: third :: _ => extraOperand 1 third
  let firstParts ← setOf (a.operands.headD [])
  let secondParts ← setOf (a.operands.getD 1 [])
  let named := SetPart.expandAll 0 firstParts
  let isNamed := membership named
  let first := if complements then
      SetPart.allBytes.filter fun c => !isNamed.getD c.toNat false
    else named
  let second := SetPart.expandAll first.length secondParts
  let translates := !deletes && a.operands.length == 2
  if translates && second.isEmpty && !a.has "t" then
    Step.complain (raw "when not truncating set1, string2 must be non-empty")
    return 1
  else if translates && !a.has "t" && second.length < first.length &&
      SetPart.endsInClass secondParts then
    Step.complain (raw "when translating with string1 longer than string2,\nthe latter string must not end with a character class")
    return 1
  else
    match ← Step.readAll 0 with
    | .error e =>
        Step.complain (raw "read error: " ++ raw e.strerror)
        return 1
    | .ok text =>
        let isFirst := membership first
        let changed :=
          if deletes then text.filter fun c => !isFirst.getD c.toNat false
          else if translates then
            let filler := second.getLastD ' '
            let table := (first.zipIdx.foldl (fun (table : Array Char) (c, i) =>
              match second[i]? with
              | some d => table.setIfInBounds c.toNat d
              | none => if a.has "t" then table else table.setIfInBounds c.toNat filler)
              (SetPart.allBytes.toArray))
            text.map fun c => table.getD c.toNat c
          else text
        let printed :=
          if !squeezes then changed
          else squeezed (membership (if a.operands.length = 2 then second else first)) changed
        Step.printLater printed
        return 0

end Bootstrap.Utility
