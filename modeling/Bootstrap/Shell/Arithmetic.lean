import Bootstrap.Text.Raw

/-!
# Arithmetic in shell scripts

Expressions over numbers of sixty-four bits with the operators of the usual ranks.  A
comparison is one if it holds and zero if not, and a name stands for the number that
its value writes, an empty value for zero.

An operand that does not matter is read but not evaluated: the right side of `&&` or
`||` where the left side decides, and the branch of a choice that is not taken.
-/

namespace Bootstrap.Shell

/-- The least and the greatest number. -/
def leastNumber : Int := -9223372036854775808

/-- The greatest number. -/
def greatestNumber : Int := 9223372036854775807

/-- A number brought between the least and the greatest. -/
def saturated (n : Int) : Int :=
  if n < leastNumber then leastNumber else if greatestNumber < n then greatestNumber else n

/-- The number that a whole text writes, blanks around it aside; outside of arithmetic there has to
be one.  A number that is too great is none. -/
def numberOf? (base? : Option Nat) (text : Raw) : Option Int :=
  match Raw.leading? base? text with
  | some (n, rest) =>
      if saturated n = n ∧ rest.all Raw.isBlank then some n else none
  | none => if base?.isNone ∧ text.all Raw.isBlank then some 0 else none

namespace Arithmetic

/-- An operator between two operands. -/
inductive Operator where
  | le | ge | lt | gt | eq | ne | rem | band | shiftLeft | shiftRight | mul | add | bor | sub | bxor
  | div
  deriving DecidableEq, Repr

namespace Operator

/-- The rank of an operator; the lower binds the tighter. -/
def rank : Operator → Nat
  | mul | div | rem => 0
  | add | sub => 1
  | shiftLeft | shiftRight => 2
  | lt | le | gt | ge => 3
  | eq | ne => 4
  | band => 5
  | bxor => 6
  | bor => 7

/-- A rank behind all operators. -/
def lastRank : Nat := 8

end Operator

/-- A token of an expression. -/
inductive Token where
  | number (n : Int)
  | name (text : Raw)
  | operator (o : Operator)
  /-- An assignment, and the operator that is used in it. -/
  | assign (o : Option Operator)
  | either | both | not | complement | opens | closes | choice | colon
  /-- A character that has no place. -/
  | bad
  deriving DecidableEq, Repr

/-- The signs of operators, longer ones first. -/
def signs : List (String × Token) :=
  [("<<=", .assign (some .shiftLeft)), (">>=", .assign (some .shiftRight)), ("||", .either),
    ("&&", .both), ("==", .operator .eq), ("!=", .operator .ne), ("<=", .operator .le),
    (">=", .operator .ge), ("<<", .operator .shiftLeft), (">>", .operator .shiftRight),
    ("+=", .assign (some .add)), ("-=", .assign (some .sub)), ("*=", .assign (some .mul)),
    ("/=", .assign (some .div)), ("%=", .assign (some .rem)), ("&=", .assign (some .band)),
    ("|=", .assign (some .bor)), ("^=", .assign (some .bxor)), ("=", .assign none),
    ("+", .operator .add), ("-", .operator .sub), ("*", .operator .mul), ("/", .operator .div),
    ("%", .operator .rem), ("<", .operator .lt), (">", .operator .gt), ("&", .operator .band),
    ("|", .operator .bor), ("^", .operator .bxor), ("!", .not), ("~", .complement), ("(", .opens),
    (")", .closes), ("?", .choice), (":", .colon)]

/-- Splits an expression into tokens; `fuel` bounds their number. -/
def tokens : (fuel : Nat) → Raw → List Token
  | 0, _ | _, [] => []
  | fuel + 1, c :: rest =>
      if c = ' ' ∨ c = '\t' ∨ c = '\n' then tokens fuel rest
      else if c.isDigit then
        match Raw.leading? none (c :: rest) with
        | some (n, rest) => .number (saturated n) :: tokens fuel rest
        | none => [.bad]
      else if c.isAlpha || c == '_' then
        let text := (c :: rest).takeWhile fun c => c.isAlphanum || c == '_'
        .name text :: tokens fuel ((c :: rest).drop text.length)
      else
        match signs.find? fun s => s.1.toList.isPrefixOf (c :: rest) with
        | some (sign, t) => t :: tokens fuel ((c :: rest).drop sign.length)
        | none => .bad :: tokens fuel rest

/-- Why an expression has no value. -/
inductive Fault where
  | expecting (what : String)
  | divisionByZero
  /-- The value of a name is no number. -/
  | notNumber (text : Raw)
  /-- The quotient is greater than the greatest number. -/
  | overflow
  deriving DecidableEq, Repr

/-- What an evaluation knows. -/
structure State where
  rest : List Token
  /-- The values of names; a name may have none. -/
  value? : Raw → Option Raw
  /-- Names that were given numbers, the latest first. -/
  assigned : List (Raw × Int)

/-- A step of an evaluation. -/
abbrev Eval := StateT State (Except Fault)

/-- The next token. -/
def ahead? : Eval (Option Token) := do return (← get).rest.head?

/-- Goes on behind the next token. -/
def advance : Eval Unit := modify fun s => { s with rest := s.rest.tail }

/-- The number that a name stands for. -/
def valueOf (name : Raw) : Eval Int := do
  let s ← get
  match s.assigned.lookup name with
  | some n => return n
  | none =>
      let text := (s.value? name).getD []
      match numberOf? none text with
      | some n => return n
      | none => throw (.notNumber text)

/-- One for what holds, zero for what does not. -/
def truth (b : Bool) : Int := if b then 1 else 0

/-- A number within its sixty-four bits. -/
def wrapped (n : Int) : Int := (Int64.ofInt n).toInt

/-- The value of an operator between two numbers. -/
def compute (o : Operator) (x y : Int) : Except Fault Int :=
  match o with
  | .le => .ok (truth (x ≤ y))
  | .ge => .ok (truth (y ≤ x))
  | .lt => .ok (truth (x < y))
  | .gt => .ok (truth (y < x))
  | .eq => .ok (truth (x == y))
  | .ne => .ok (truth (x != y))
  | .band => .ok (Int64.ofInt x &&& Int64.ofInt y).toInt
  | .bor => .ok (Int64.ofInt x ||| Int64.ofInt y).toInt
  | .bxor => .ok (Int64.ofInt x ^^^ Int64.ofInt y).toInt
  | .shiftLeft => .ok (wrapped (x * Int.pow 2 (y.emod 64).toNat))
  | .shiftRight => .ok (x.shiftRight (y.emod 64).toNat)
  | .add => .ok (wrapped (x + y))
  | .sub => .ok (wrapped (x - y))
  | .mul => .ok (wrapped (x * y))
  | .div =>
      if y = 0 then .error .divisionByZero
      else if y = -1 ∧ x = leastNumber then .error .overflow
      else .ok (x.tdiv y)
  | .rem =>
      if y = 0 then .error .divisionByZero
      else if y = -1 ∧ x = leastNumber then .error .overflow
      else .ok (x.tmod y)

mutual

/-- The value of an assignment or of what stands in its place. -/
def assignment : (fuel : Nat) → (idle : Bool) → Eval Int
  | 0, _ => throw (.expecting "primary")
  | fuel + 1, idle => do
      match (← get).rest with
      | .name name :: .assign o? :: rest =>
          modify fun s => { s with rest := rest }
          let y ← assignment fuel idle
          if idle then return y
          else
            let n ← match o? with
              | none => pure y
              | some o => do compute o (← valueOf name) y
            modify fun s => { s with assigned := (name, n) :: s.assigned }
            return n
      | _ => choice fuel idle

/-- The value of a choice. -/
def choice : (fuel : Nat) → (idle : Bool) → Eval Int
  | 0, _ => throw (.expecting "primary")
  | fuel + 1, idle => do
      let a ← either fuel idle
      if (← ahead?) ≠ some .choice then return a
      else
        advance
        let b ← assignment fuel (idle || a == 0)
        if (← ahead?) ≠ some .colon then throw (.expecting "':'")
        else
          advance
          let c ← choice fuel (idle || a != 0)
          return if a ≠ 0 then b else c

/-- The value of operands of which one has to hold. -/
def either : (fuel : Nat) → (idle : Bool) → Eval Int
  | 0, _ => throw (.expecting "primary")
  | fuel + 1, idle => do
      let a ← both fuel idle
      if (← ahead?) ≠ some .either then return a
      else
        advance
        let b ← either fuel (idle || a != 0)
        return truth (a != 0 || b != 0)

/-- The value of operands all of which have to hold. -/
def both : (fuel : Nat) → (idle : Bool) → Eval Int
  | 0, _ => throw (.expecting "primary")
  | fuel + 1, idle => do
      let a ← operation fuel idle (← primary fuel idle) Operator.lastRank
      if (← ahead?) ≠ some .both then return a
      else
        advance
        let b ← both fuel (idle || a == 0)
        return truth (a != 0 && b != 0)

/-- Goes on from the value `a` with operators of a lower rank than `bound`. -/
def operation : (fuel : Nat) → (idle : Bool) → (a : Int) → (bound : Nat) → Eval Int
  | 0, _, _, _ => throw (.expecting "primary")
  | fuel + 1, idle, a, bound => do
      match ← ahead? with
      | some (.operator o) =>
          if bound ≤ o.rank then return a
          else
            advance
            let b ← operation fuel idle (← primary fuel idle) o.rank
            let c ← if idle then pure b else compute o a b
            operation fuel idle c bound
      | _ => return a

/-- The value of an operand. -/
def primary : (fuel : Nat) → (idle : Bool) → Eval Int
  | 0, _ => throw (.expecting "primary")
  | fuel + 1, idle => do
      match ← ahead? with
      | some .opens =>
          advance
          let n ← assignment fuel idle
          if (← ahead?) ≠ some .closes then throw (.expecting "')'")
          else
            advance
            return n
      | some (.number n) => advance; return n
      | some (.name text) => advance; if idle then return 0 else valueOf text
      | some (.operator .add) => advance; primary fuel idle
      | some (.operator .sub) => advance; return wrapped (-(← primary fuel idle))
      | some .not => advance; return truth ((← primary fuel idle) == 0)
      | some .complement => advance; return -(← primary fuel idle) - 1
      | _ => throw (.expecting "primary")

end

/-- The value of an expression, and the names that it gives numbers to, in order. -/
def evaluate (value? : Raw → Option Raw) (text : Raw) : Except Fault (Int × List (Raw × Int)) := do
  let all := tokens text.length text
  let (n, s) ← (assignment (8 * all.length + 16) false).run ⟨all, value?, []⟩
  if s.rest.isEmpty then return (n, s.assigned.reverse) else throw (.expecting "EOF")

end Arithmetic

end Bootstrap.Shell
