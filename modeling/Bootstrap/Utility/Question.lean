import Bootstrap.Machine.FileTest
import Bootstrap.Utility.Arguments

/-!
# Questions with a status for an answer

The utility answers questions about files, texts and numbers.  Up to four arguments
are understood by their number; more are an expression with operators between its
parts.
-/

namespace Bootstrap.Utility.Question

open Machine

/-- What is left of the arguments, and the last of all. -/
structure Pending where
  rest : List Raw
  last : Raw

/-- A step that reads an expression. -/
abbrev Reading := StateT Pending Step

/-- Complains and ends the utility. -/
def wrong {α : Type} (text : Raw) : Reading α := do
  Step.complain text
  Step.exit 2

/-- Complains that an argument is missing at the end. -/
def tooFew {α : Type} : Reading α := do
  wrong (raw "missing argument after " ++ NameQuoted.always (← get).last)

/-- The present argument; there is none behind the last. -/
def here : Reading Raw := do return (← get).rest.headD []

/-- Goes on by some arguments. -/
def skip (count : Nat) : Reading Unit := modify fun p => { p with rest := p.rest.drop count }

/-- Goes on by one argument, behind which there must be another. -/
def advance : Reading Unit := do
  skip 1
  if (← get).rest.isEmpty then tooFew

/-- The operators between two operands. -/
def operators : List Raw :=
  ["=", "!=", "==", "-nt", "-ot", "-ef", "-eq", "-ne", "-lt", "-le", "-gt", "-ge"].map raw

/-- Whether an argument is a dash with a letter. -/
def isSwitch (word : Raw) : Bool := word.length == 2 && word.head? == some '-'

/-- The number that an argument writes. -/
def number (word : Raw) : Reading Int := do
  match Raw.int? word with
  | some n => return n
  | none => wrong (raw "invalid integer " ++ NameQuoted.always word)

/-- An operand of a comparison of numbers: a number, or the length of a text. -/
def operand (measured : Bool) (word : Raw) : Reading Int :=
  if measured then return word.length else number word

/-- Compares the two operands around an operator; the length of one may be meant. -/
def binary (leftMeasured : Bool) : Reading Bool := do
  if leftMeasured then skip 1
  let rest := (← get).rest
  let a := rest.getD 0 []
  let operator := Raw.toString (rest.getD 1 [])
  let rightMeasured := rest.getD 2 [] == raw "-l" && 3 < rest.length
  let b := rest.getD (if rightMeasured then 3 else 2) []
  skip (if rightMeasured then 4 else 3)
  let compare := fun (p : Int → Int → Bool) => do
    let x ← operand leftMeasured a
    let y ← operand rightMeasured b
    return p x y
  match operator with
  | "=" | "==" => return a == b
  | "!=" => return a != b
  | "-eq" => compare (· == ·)
  | "-ne" => compare (· != ·)
  | "-lt" => compare (· < ·)
  | "-le" => compare (· ≤ ·)
  | "-gt" => compare (· > ·)
  | "-ge" => compare (· ≥ ·)
  | other =>
      if leftMeasured || rightMeasured then wrong (raw other ++ raw " does not accept -l")
      else
        match other with
        | "-nt" => return isYounger (← Step.time? a) (← Step.time? b)
        | "-ot" => return isYounger (← Step.time? b) (← Step.time? a)
        | _ => Step.isSameFile a b
where
  /-- Whether an instant is behind another; a file that is not there has none. -/
  isYounger : Option Int → Option Int → Bool
    | some x, some y => y < x
    | some _, none => true
    | none, _ => false

/-- Answers the question of a dash with a letter. -/
def unary : Reading Bool := do
  let word ← here
  let letter := word.getLastD ' '
  if !(letter == 'a' || letter == 'N' || "znt".toList.contains letter ||
      Step.fileQuestions.contains letter) then
    wrong (NameQuoted.always word ++ raw ": unary operator expected")
  else
    advance
    let operand ← here
    skip 1
    match letter with
    | 'z' => return operand.isEmpty
    | 'n' => return !operand.isEmpty
    | 't' =>
        let _ ← number operand
        return false
    | 'a' => Step.fileTest 'e' operand
    | 'N' => return false
    | letter => Step.fileTest letter operand

/-- One argument: whether it is filled. -/
def one : Reading Bool := do
  let word ← here
  skip 1
  return !word.isEmpty

/-- Two arguments. -/
def two : Reading Bool := do
  let word ← here
  if word = ['!'] then
    skip 1
    return !(← one)
  else if isSwitch word then unary
  else tooFew

mutual

/-- So many arguments, or an expression if they are many; `fuel` bounds the number of steps. -/
def several (fuel count : Nat) : Reading Bool :=
  match fuel with
  | 0 => return false
  | fuel + 1 => do
      match count with
      | 1 => one
      | 2 => two
      | 3 => three fuel
      | 4 => do
          let rest := (← get).rest
          if rest.head? = some ['!'] then
            advance
            return !(← three fuel)
          else if rest.head? = some ['('] ∧ rest.getD 3 [] = [')'] then
            skip 1
            let value ← two
            skip 1
            return value
          else either fuel
      | _ => either fuel

/-- Three arguments. -/
def three (fuel : Nat) : Reading Bool :=
  match fuel with
  | 0 => return false
  | fuel + 1 => do
      let rest := (← get).rest
      let first := rest.getD 0 []
      let second := rest.getD 1 []
      if operators.contains second then binary false
      else if first = ['!'] then
        advance
        return !(← two)
      else if first = ['('] ∧ rest.getD 2 [] = [')'] then
        skip 1
        let value ← one
        skip 1
        return value
      else if second = raw "-a" ∨ second = raw "-o" then either fuel
      else wrong (NameQuoted.always second ++ raw ": binary operator expected")

/-- Parts of which one must hold. -/
def either (fuel : Nat) : Reading Bool :=
  match fuel with
  | 0 => return false
  | fuel + 1 => do
      if (← get).rest.isEmpty then tooFew
      else
        let value ← both fuel
        if (← get).rest.head? = some (raw "-o") then
          skip 1
          let other ← either fuel
          return value || other
        else return value

/-- Parts that must all hold. -/
def both (fuel : Nat) : Reading Bool :=
  match fuel with
  | 0 => return false
  | fuel + 1 => do
      let value ← term fuel
      if (← get).rest.head? = some (raw "-a") then
        skip 1
        let other ← both fuel
        return value && other
      else return value

/-- A part, which may be negated or stand in parentheses. -/
def term (fuel : Nat) : Reading Bool :=
  match fuel with
  | 0 => return false
  | fuel + 1 => do
      let rest := (← get).rest
      match rest with
      | [] => tooFew
      | ['!'] :: _ => do
          advance
          return !(← term fuel)
      | ['('] :: _ => do
          advance
          let inner := (← get).rest
          let near := (inner.drop 1).takeWhile (· ≠ [')'])
          let value ←
            several fuel (if 4 ≤ near.length then inner.length else near.length + 1)
          match (← get).rest with
          | [')'] :: _ => skip 1; return value
          | [] => wrong (raw "')' expected")
          | other :: _ => wrong (raw "')' expected, found " ++ NameQuoted.always other)
      | word :: _ =>
          if 4 ≤ rest.length ∧ word = raw "-l" ∧ operators.contains (rest.getD 2 []) then binary true
          else if 3 ≤ rest.length ∧ operators.contains (rest.getD 1 []) then binary false
          else if isSwitch word then unary
          else one

end

/-- Answers a question by its status. -/
def answer (words : List Raw) : Step Nat := do
  if words.isEmpty then return 1
  else
    let (value, pending) ←
      (several (16 * words.length + 16) words.length).run ⟨words, words.getLastD []⟩
    match pending.rest with
    | [] => return if value then 0 else 1
    | extra :: _ =>
        Step.complain (raw "extra argument " ++ NameQuoted.always extra)
        return 2

/-- Answers a question in brackets. -/
def bracketed (words : List Raw) : Step Nat := do
  if words.getLast? ≠ some [']'] then
    Step.complain (raw "missing ']'")
    return 2
  else answer words.dropLast

end Bootstrap.Utility.Question
