import Bootstrap.Machine.FileTest
import Bootstrap.Shell.State

/-!
# Conditions

The expressions of `test`: questions about files, comparisons of texts and of
numbers, and their combinations.  An argument that may be an operator is taken for
one where an operator may stand, and otherwise for an operand.
-/

namespace Bootstrap.Shell.Condition

open Machine

/-- What an argument is in an expression. -/
inductive Token where
  | ended
  | operand
  /-- An operator on one operand, by its letter. -/
  | unary (letter : Char)
  /-- An operator between two operands. -/
  | binary (operator : String)
  | not
  | both
  | either
  | opens
  | closes
  deriving DecidableEq, Repr

/-- The operators between two operands. -/
def binaryOperators : List String :=
  ["=", "!=", "<", ">", "-eq", "-ne", "-gt", "-ge", "-lt", "-le", "-nt", "-ot", "-ef"]

/-- What a word is by itself. -/
def wordToken (word : Raw) : Token :=
  match word with
  | ['!'] => .not
  | ['('] => .opens
  | [')'] => .closes
  | ['-', 'a'] => .both
  | ['-', 'o'] => .either
  | _ =>
      match binaryOperators.find? fun o => raw o = word with
      | some o => .binary o
      | none =>
          match word with
          | ['-', c] =>
              if Step.fileQuestions.contains c || "znt".toList.contains c then .unary c
              else .operand
          | _ => .operand

/-- Whether a word is an operator between two operands. -/
def isBinary (word : Raw) : Bool :=
  match wordToken word with
  | .binary _ => true
  | _ => false

/-- What the first of some arguments is. -/
def tokenOf : List Raw → Token
  | [] => .ended
  | word :: rest =>
      match wordToken word with
      | .unary c =>
          match rest with
          | [] => .operand
          | o :: _ :: _ => if isBinary o then .operand else .unary c
          | _ => .unary c
      | .opens => if rest.isEmpty then .operand else .opens
      | t => t

/-- A step that reads an expression.  The state holds the arguments from the latest on. -/
abbrev Reading := StateT (List Raw) Act

/-- Reports that an expression is malformed. -/
def malformed {α : Type} (word : Raw) (text : String) : Reading α :=
  Act.fail (if word.isEmpty then raw text else word ++ raw ": " ++ raw text)

/-- The number that an operand writes. -/
def numberIn (word : Raw) : Reading Int := do
  match numberOf? (some 10) word with
  | some n => return n
  | none => Act.fail (raw "Illegal number: " ++ word)

/-- The value of an operator on one operand. -/
def unary (letter : Char) (operand : Raw) : Reading Bool := do
  if letter = 'z' then return operand.isEmpty
  else if letter = 'n' then return !operand.isEmpty
  else if letter = 't' then
    let _ ← numberIn operand
    return false
  else Act.machine (Step.fileTest letter operand)

/-- The value of an operator between two operands. -/
def binary (operator : String) (x y : Raw) : Reading Bool := do
  let compare := fun (p : Int → Int → Bool) => do
    let a ← numberIn x
    let b ← numberIn y
    return p a b
  let times := fun (p : Int → Int → Bool) => do
    match ← Act.machine (Step.time? x), ← Act.machine (Step.time? y) with
    | some a, some b => return p a b
    | _, _ => return false
  match operator with
  | "=" => return x == y
  | "!=" => return x != y
  | "<" => return x.precedes y
  | ">" => return y.precedes x
  | "-eq" => compare (· == ·)
  | "-ne" => compare (· != ·)
  | "-gt" => compare (· > ·)
  | "-ge" => compare (· ≥ ·)
  | "-lt" => compare (· < ·)
  | "-le" => compare (· ≤ ·)
  | "-nt" => times (· > ·)
  | "-ot" => times (· < ·)
  | _ => Act.machine (Step.isSameFile x y)

/-- Goes on to a later argument, and says what it is. -/
def step (count : Nat) : Reading Token := do
  modify fun rest => rest.drop count
  return tokenOf (← get)

mutual

/-- Expressions of which one must hold; `t` is the latest argument. -/
def either : (fuel : Nat) → Token → Reading Bool
  | 0, _ => return false
  | fuel + 1, t => do
      let a ← both fuel t
      if tokenOf ((← get).drop 1) = .either then
        let b ← either fuel (← step 2)
        return a || b
      else return a

/-- Expressions that must all hold. -/
def both : (fuel : Nat) → Token → Reading Bool
  | 0, _ => return false
  | fuel + 1, t => do
      let a ← negation fuel t
      if tokenOf ((← get).drop 1) = .both then
        let b ← both fuel (← step 2)
        return a && b
      else return a

/-- An expression that may be negated. -/
def negation : (fuel : Nat) → Token → Reading Bool
  | 0, _ => return false
  | fuel + 1, t => do
      if t ≠ .not then primary fuel t
      else
        let next := tokenOf ((← get).drop 1)
        if next ≠ .ended then modify fun rest => rest.drop 1
        return !(← negation fuel next)

/-- An expression without combinations. -/
def primary : (fuel : Nat) → Token → Reading Bool
  | 0, _ => return false
  | fuel + 1, t => do
      let here := (← get).headD []
      match t with
      | .ended => return false
      | .opens =>
          let next ← step 1
          if next = .closes then return false
          else
            let value ← either fuel next
            if (← step 1) ≠ .closes then malformed [] "closing paren expected"
            else return value
      | .unary c =>
          let _ ← step 1
          match ← get with
          | [] => malformed here "argument expected"
          | operand :: _ => unary c operand
      | _ =>
          match tokenOf ((← get).drop 1) with
          | .binary o =>
              modify fun rest => rest.drop 2
              match ← get with
              | [] => malformed (raw o) "argument expected"
              | y :: _ => binary o here y
          | _ => return !here.isEmpty

end

/-- The value of a whole expression.  Of up to four arguments the first may negate the rest, or the
first and the last may be parentheses around it, unless there is a comparison. -/
def evaluate : (fuel : Nat) → (negated : Bool) → List Raw → Act Bool
  | 0, _, _ => return false
  | fuel + 1, negated, arguments => do
      let whole := fun (t : Token) (arguments : List Raw) => do
        let (value, rest) ← (either (8 * arguments.length + 8) t).run arguments
        match rest with
        | word :: _ :: _ => Act.fail (word ++ raw ": unexpected operator")
        | _ => return value != negated
      let count := arguments.length
      if arguments.isEmpty then return negated
      else if count = 3 ∧ isBinary (arguments.getD 1 []) then whole .operand arguments
      else if (count = 3 ∨ count = 4) ∧ arguments.head? = some ['('] ∧
          arguments.getLast? = some [')'] then
        let inner := arguments.tail.dropLast
        whole (tokenOf inner) inner
      else if (count = 3 ∨ count = 4) ∧ arguments.head? = some ['!'] then
        evaluate fuel (!negated) arguments.tail
      else whole (tokenOf arguments) arguments

/-- The builtin command; in brackets the last argument has to close them. -/
def test (bracketed : Bool) (arguments : List Raw) : Act Nat := do
  if bracketed && (arguments.getLastD []).head? != some ']' then
    Act.fail (raw "missing ]")
  else
    let inner := if bracketed then arguments.dropLast else arguments
    let value ← evaluate (inner.length + 1) false inner
    return if value then 0 else 1

end Bootstrap.Shell.Condition
