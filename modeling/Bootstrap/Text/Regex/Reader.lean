import Bootstrap.Text.Regex.Token

/-!
# Regular expressions

A regular expression is read from its tokens: alternatives stand between bars, and a
repetition binds the item in front of it.  Groups are numbered by their opening
parentheses.
-/

namespace Bootstrap

/-- A regular expression. -/
inductive Regex where
  | empty
  /-- A character in one of the ranges, or in none of them. -/
  | one (negated : Bool) (ranges : List CharRange)
  | place (p : Regex.Place)
  | group (number : Nat) (inner : Regex)
  | back (number : Nat)
  | both (first second : Regex)
  | either (first second : Regex)
  | repeated (inner : Regex) (least : Nat) (most : Option Nat)
  deriving Repr

namespace Regex

/-- What is left to read, how many groups were opened, and which of them are closed. -/
structure Reading where
  rest : List Token
  groups : Nat
  closed : List Nat

/-- A step that reads an expression. -/
abbrev Reader := StateT Reading (Except Fault)

/-- Takes the token in front. -/
def skip : Reader Unit := modify fun r => { r with rest := r.rest.tail }

/-- An item with the repetitions behind it; `fuel` bounds their number. -/
def withTimes : (fuel : Nat) → Regex → Reader Regex
  | 0, item => return item
  | fuel + 1, item => do
      match (← get).rest with
      | .times least most :: _ =>
          skip
          withTimes fuel (.repeated item least most)
      | _ => return item

mutual

/-- Alternatives between bars, up to the parenthesis that closes them. -/
def alternatives : (fuel : Nat) → Reader Regex
  | 0 => return .empty
  | fuel + 1 => do
      let first ← sequence fuel
      match (← get).rest with
      | .bar :: _ =>
          skip
          return .either first (← alternatives fuel)
      | _ => return first

/-- Items behind each other. -/
def sequence : (fuel : Nat) → Reader Regex
  | 0 => return .empty
  | fuel + 1 => do
      match (← get).rest with
      | [] | .bar :: _ | .closes :: _ => return .empty
      | t :: rest =>
          skip
          let item ← atom fuel t
          let item ← withTimes rest.length item
          match (← get).rest with
          | [] | .bar :: _ | .closes :: _ => return item
          | _ => return .both item (← sequence fuel)

/-- An item that begins with a token. -/
def atom : (fuel : Nat) → Token → Reader Regex
  | 0, _ => return .empty
  | fuel + 1, t => do
      match t with
      | .one negated ranges => return .one negated ranges
      | .place p => return .place p
      | .back n =>
          if (← get).closed.contains n then return .back n else throw .unknownGroup
      | .opens =>
          let number := (← get).groups + 1
          modify fun r => { r with groups := number }
          let inner ← alternatives fuel
          match (← get).rest with
          | .closes :: _ =>
              skip
              modify fun r => { r with closed := number :: r.closed }
              return .group number inner
          | _ => throw .unmatchedOpening
      | .times .. => throw .nothingToRepeat
      | .closes | .bar | .idle _ => return .empty

end

/-- The expression that tokens write, and how many groups it has. -/
def ofTokens (tokens : List Token) : Except Fault (Regex × Nat) := do
  let (found, r) ← (alternatives (4 * tokens.length + 4)).run ⟨tokens, 0, []⟩
  if r.rest.isEmpty then return (found, r.groups) else throw .unmatchedClosing

/-- The expression that a text without operators is. -/
def literal (text : Raw) : Regex :=
  text.foldr (fun c r => .both (.one false [.span c c]) r) .empty

/-- Whether an expression refers to what a group matched. -/
def refersBack : Regex → Bool
  | back _ => true
  | group _ r | repeated r _ _ => refersBack r
  | both r s | either r s => refersBack r || refersBack s
  | empty | one .. | place _ => false

end Regex

end Bootstrap
