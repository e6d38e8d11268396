import Bootstrap.Text.Regex.Match
import Bootstrap.Utility.Say

/-!
# Utilities that compute

They print sequences of numbers and the values of expressions.
-/

namespace Bootstrap.Utility

open Machine

/-! ## Sequences -/

/-- A decimal number: `value` divided by ten to the power of `places`. -/
structure DecimalNumber where
  value : Int
  places : Nat

namespace DecimalNumber

/-- The number that a text writes. -/
def ofText? (text : Raw) : Option DecimalNumber := do
  let body := text.dropWhile Raw.isBlank
  let (negative, body) := match body with
    | '-' :: rest => (true, rest)
    | '+' :: rest => (false, rest)
    | _ => (false, body)
  let whole := body.takeWhile Char.isDigit
  let behind := body.drop whole.length
  let fraction := match behind with
    | '.' :: rest => rest.takeWhile Char.isDigit
    | _ => []
  let behind := match behind with
    | '.' :: rest => rest.drop fraction.length
    | _ => behind
  let digits ← Raw.digits? (whole ++ fraction)
  let signed : Int := if negative then -(digits : Int) else digits
  match behind with
  | [] => return ⟨signed, fraction.length⟩
  | e :: power =>
      if e = 'e' ∨ e = 'E' then
        let n ← Raw.int? power
        let places : Int := fraction.length - n
        if places < 0 then return ⟨signed * Int.pow 10 places.natAbs, 0⟩ else return ⟨signed, places.toNat⟩
      else none

/-- The value in units of ten to the power of minus `places`. -/
def scaled (x : DecimalNumber) (places : Nat) : Int := x.value * Int.pow 10 (places - x.places)

/-- A number in units of ten to the power of minus `places`, as text. -/
def textOf (value : Int) (places : Nat) : Raw :=
  let digits := Decimal.pointed (Raw.ofNat value.natAbs) places false
  if value < 0 then '-' :: digits else digits

end DecimalNumber

/-- Options of `seq`, behind which negative numbers are operands. -/
def sequenceArguments : (fuel : Nat) → List Raw → List Raw × List Raw
  | 0, words => ([], words)
  | fuel + 1, words =>
      match words with
      | ['-', '-'] :: rest => ([], rest)
      | ('-' :: c :: text) :: rest =>
          if c.isDigit ∨ c = '.' then ([], words)
          else
            let takesNext := text.isEmpty && (c = 's' || c = 'f')
            let (options, operands) := sequenceArguments fuel (rest.drop (if takesNext then 1 else 0))
            ((('-' :: c :: text) :: rest.take (if takesNext then 1 else 0)) ++ options, operands)
      | _ => ([], words)

/-- The most numbers that are printed: more than anyone takes. -/
def sequenceLimit : Nat := 10000000

/-- Prints a sequence of numbers. -/
def seq (words : List Raw) : Step Nat := do
  let (options, operands) := sequenceArguments (words.length + 1) words
  let a ← arguments 1 ⟨"f:s:w",
    [("format", .required, "f"), ("separator", .required, "s"), ("equal-width", .none, "w")], false⟩
    options
  let number := fun (text : Raw) => do
    match DecimalNumber.ofText? text with
    | some x => return x
    | none => misuse 1 (raw "invalid floating point argument: " ++ NameQuoted.always text)
  match operands with
  | [] => missingOperand 1
  | _ :: _ :: _ :: extra :: _ => extraOperand 1 extra
  | _ =>
      let first ← if operands.length = 1 then pure ⟨1, 0⟩ else number (operands.headD [])
      let step ← if operands.length = 3 then number (operands.getD 1 []) else pure ⟨1, 0⟩
      let lastText := operands.getLastD []
      let endless := lastText = raw "inf" ∨ lastText = raw "infinity"
      let last ← if endless then pure ⟨0, 0⟩ else number lastText
      if step.value = 0 then
        misuse 1 (raw "invalid Zero increment value: " ++ NameQuoted.always (operands.getD 1 []))
      else
        let places := max first.places step.places
        let unit := max places last.places
        let (start, by', stop) := (first.scaled unit, step.scaled unit, last.scaled unit)
        let count : Nat :=
          if endless then sequenceLimit
          else if by' > 0 then if stop < start then 0 else ((stop - start) / by').toNat + 1
          else if start < stop then 0 else ((start - stop) / -by').toNat + 1
        let shown := fun (i : Nat) =>
          let value := start + by' * i
          DecimalNumber.textOf (value / Int.pow 10 (unit - places)) places
        let width := fun (text : Raw) (x : DecimalNumber) =>
          let text := if text.head? = some '+' then text.tail else text
          let point := if x.places = 0 ∧ 0 < places then 1 else if 0 < x.places ∧ places = 0 then -1 else 0
          (text.length + (if (raw ".").isPrefixOf text then 1 else 0) + places - x.places + point : Int)
        let firstText := if operands.length = 1 then ['1'] else operands.headD []
        let width :=
          if a.has "w" then (max (width firstText first) (width lastText last)).toNat else 0
        let filled := fun (text : Raw) => match text with
          | '-' :: digits => '-' :: Raw.padLeft (width - 1) digits '0'
          | _ => Raw.padLeft width text '0'
        let formatted := fun (text : Raw) => match a.value? "f" with
          | some format => (Formatted.print dialect format [text]).text
          | none => filled text
        let separator := (a.value? "s").getD ['\n']
        if count = 0 then return 0
        else
          printAll (fun i => (if i = 0 then [] else separator) ++ formatted (shown i)) 0
            (min count sequenceLimit)
          return 0
where
  /-- Prints the numbers from one on, in blocks. -/
  printAll (text : Nat → Raw) (start : Nat) : (count : Nat) → Step Unit
    | 0 => Step.printLater ['\n']
    | count + 1 => do
        Step.printLater (text start)
        if start % 4096 = 4095 then
          Step.flush
          if (← get).outputFault.isSome then return ()
        printAll text (start + 1) count

/-! ## Expressions -/

/-- What is wrong with an expression. -/
abbrev Evaluating := StateT (List Raw × List Raw) (Except Raw)

namespace Evaluating

/-- The value of a text as an integer. -/
def integer? (text : Raw) : Option Int :=
  match text with
  | '-' :: digits => (Raw.digits? digits).map fun n => -(n : Int)
  | _ => (Raw.digits? text).map fun n => (n : Int)

/-- Whether a value is empty or zero. -/
def isNull (text : Raw) : Bool :=
  match text with
  | [] => true
  | '-' :: rest => !rest.isEmpty && rest.all (· == '0')
  | _ => text.all (· == '0')

/-- A complaint about the syntax. -/
def wrong {α : Type} (text : Raw) : Evaluating α := throw (raw "syntax error: " ++ text)

/-- Takes the argument in front. -/
def advance : Evaluating Unit :=
  modify fun (done, rest) => (rest.take 1 ++ done, rest.drop 1)

/-- Takes the argument in front if it is the given one. -/
def takes (text : String) : Evaluating Bool := do
  if (← get).2.head? = some (raw text) then advance; return true else return false

/-- Asks for an argument. -/
def needsMore : Evaluating Unit := do
  let (done, rest) ← get
  if rest.isEmpty then wrong (raw "missing argument after " ++ NameQuoted.always (done.headD []))

/-- An argument as it is. -/
def next : Evaluating Raw := do
  needsMore
  let found := (← get).2.headD []
  advance
  return found

/-- What a text matches of another from its start: the text of the first group, or how much is
matched. -/
def matchFront (text pattern : Raw) : Evaluating Raw := do
  match Matcher.ofText { bareGroups := false, bareSigns := false, allowsEmptyRanges := true } false
      false pattern with
  | .error fault => throw (raw fault.message)
  | .ok m =>
      let subject := text.toArray
      match m.matchAt? subject 0 with
      | some found =>
          return if m.groups = 0 then Raw.ofNat found.stop else found.group subject 1
      | none => return if m.groups = 0 then ['0'] else []

/-- The integer that a value is. -/
def integer (text : Raw) : Evaluating Int := do
  match integer? text with
  | some n => return n
  | none => throw (raw "non-integer argument")

/-- A value that a comparison has. -/
def truth (b : Bool) : Raw := if b then ['1'] else ['0']

/-- Takes the operator in front if it is one of some. -/
def operator? (operators : List String) : Evaluating (Option String) := do
  let front := (← get).2.head?
  match operators.find? fun o => front = some (raw o) with
  | some o => advance; return some o
  | none => return none

mutual

/-- A value, or the next one if it is null. -/
def either : (fuel : Nat) → (counts : Bool) → Evaluating Raw
  | 0, _ => return []
  | fuel + 1, counts => do
      let first ← both fuel counts
      eitherMore fuel counts first

/-- What follows a value that may be null. -/
def eitherMore : (fuel : Nat) → (counts : Bool) → Raw → Evaluating Raw
  | 0, _, value => return value
  | fuel + 1, counts, value => do
      if ← takes "|" then
        let second ← both fuel (counts && isNull value)
        eitherMore fuel counts (if !isNull value then value else if isNull second then ['0'] else second)
      else return value

/-- A value, or zero if it or the next one is null. -/
def both : (fuel : Nat) → (counts : Bool) → Evaluating Raw
  | 0, _ => return []
  | fuel + 1, counts => do
      let first ← comparison fuel counts
      bothMore fuel counts first

/-- What follows a value that must not be null. -/
def bothMore : (fuel : Nat) → (counts : Bool) → Raw → Evaluating Raw
  | 0, _, value => return value
  | fuel + 1, counts, value => do
      if ← takes "&" then
        let second ← comparison fuel (counts && !isNull value)
        bothMore fuel counts (if isNull value || isNull second then ['0'] else value)
      else return value

/-- A comparison. -/
def comparison : (fuel : Nat) → (counts : Bool) → Evaluating Raw
  | 0, _ => return []
  | fuel + 1, counts => do
      let first ← sum fuel counts
      comparisonMore fuel counts first

/-- What a value is compared with. -/
def comparisonMore : (fuel : Nat) → (counts : Bool) → Raw → Evaluating Raw
  | 0, _, value => return value
  | fuel + 1, counts, value => do
      match ← operator? ["<=", "<", "=", "==", "!=", ">=", ">"] with
      | none => return value
      | some o =>
          let second ← sum fuel counts
          let order := match integer? value, integer? second with
            | some m, some n => compare m n
            | _, _ => if value.precedes second then .lt else if second.precedes value then .gt else .eq
          let holds := match o with
            | "<=" => order != .gt
            | "<" => order == .lt
            | "=" | "==" => order == .eq
            | "!=" => order != .eq
            | ">=" => order != .lt
            | _ => order == .gt
          comparisonMore fuel counts (truth holds)

/-- A sum. -/
def sum : (fuel : Nat) → (counts : Bool) → Evaluating Raw
  | 0, _ => return []
  | fuel + 1, counts => do
      let first ← product fuel counts
      sumMore fuel counts first

/-- What is added or taken away. -/
def sumMore : (fuel : Nat) → (counts : Bool) → Raw → Evaluating Raw
  | 0, _, value => return value
  | fuel + 1, counts, value => do
      match ← operator? ["+", "-"] with
      | none => return value
      | some o =>
          let second ← product fuel counts
          if !counts then sumMore fuel counts value
          else
            let m ← integer value
            let n ← integer second
            sumMore fuel counts (Raw.ofInt (if o = "+" then m + n else m - n))

/-- A product. -/
def product : (fuel : Nat) → (counts : Bool) → Evaluating Raw
  | 0, _ => return []
  | fuel + 1, counts => do
      let first ← matching fuel counts
      productMore fuel counts first

/-- What is multiplied or divided. -/
def productMore : (fuel : Nat) → (counts : Bool) → Raw → Evaluating Raw
  | 0, _, value => return value
  | fuel + 1, counts, value => do
      match ← operator? ["*", "/", "%"] with
      | none => return value
      | some o =>
          let second ← matching fuel counts
          if !counts then productMore fuel counts value
          else
            let m ← integer value
            let n ← integer second
            if o ≠ "*" ∧ n = 0 then throw (raw "division by zero")
            else
              productMore fuel counts
                (Raw.ofInt (if o = "*" then m * n else if o = "/" then m.tdiv n else m.tmod n))

/-- A match. -/
def matching : (fuel : Nat) → (counts : Bool) → Evaluating Raw
  | 0, _ => return []
  | fuel + 1, counts => do
      let first ← function fuel counts
      matchingMore fuel counts first

/-- What a text is matched with. -/
def matchingMore : (fuel : Nat) → (counts : Bool) → Raw → Evaluating Raw
  | 0, _, value => return value
  | fuel + 1, counts, value => do
      if ← takes ":" then
        let pattern ← function fuel counts
        if counts then matchingMore fuel counts (← matchFront value pattern)
        else matchingMore fuel counts value
      else return value

/-- A function of its arguments, or a plain value. -/
def function : (fuel : Nat) → (counts : Bool) → Evaluating Raw
  | 0, _ => return []
  | fuel + 1, counts => do
      if ← takes "+" then next
      else if ← takes "length" then return Raw.ofNat (← function fuel counts).length
      else if ← takes "match" then
        let text ← function fuel counts
        let pattern ← function fuel counts
        if counts then matchFront text pattern else return []
      else if ← takes "index" then
        let text ← function fuel counts
        let set ← function fuel counts
        return Raw.ofNat (((text.findIdx? set.contains).map (· + 1)).getD 0)
      else if ← takes "substr" then
        let text ← function fuel counts
        let start ← function fuel counts
        let length ← function fuel counts
        match integer? start, integer? length with
        | some m, some n =>
            return if m ≤ 0 ∨ n ≤ 0 then [] else (text.drop (m.toNat - 1)).take n.toNat
        | _, _ => return []
      else plain fuel counts

/-- A value, or an expression in parentheses. -/
def plain : (fuel : Nat) → (counts : Bool) → Evaluating Raw
  | 0, _ => return []
  | fuel + 1, counts => do
      needsMore
      if ← takes "(" then
        let value ← either fuel counts
        let (done, rest) ← get
        if rest.isEmpty then
          wrong (raw "expecting ')' after " ++ NameQuoted.always (done.headD []))
        else if ← takes ")" then return value
        else wrong (raw "expecting ')' instead of " ++ NameQuoted.always (rest.headD []))
      else if ← takes ")" then wrong (raw "unexpected ')'")
      else next

end

end Evaluating

/-- Prints the value of an expression. -/
def expr (words : List Raw) : Step Nat := do
  let words := if words.head? = some ['-', '-'] then words.tail else words
  if words.isEmpty then missingOperand 2
  else
    match (Evaluating.either (12 * words.length + 12) true).run ([], words) with
    | .error message => Step.complain message; return 2
    | .ok (value, _, rest) =>
        if rest.isEmpty then
          Step.printLine value
          return if Evaluating.isNull value then 1 else 0
        else
          Step.complain (raw "syntax error: unexpected argument " ++ NameQuoted.always (rest.headD []))
          return 2

end Bootstrap.Utility
