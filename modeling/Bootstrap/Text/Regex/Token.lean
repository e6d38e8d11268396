import Bootstrap.Text.Pattern

/-!
# The tokens of regular expressions

Programs write regular expressions in different ways.  In a basic one the operators
stand behind backslashes; in an extended one they stand alone, and a backslash takes
their meaning from them.  They differ too in what they make of operators where they
make no sense.  As tokens all look the same.
-/

namespace Bootstrap.Regex

/-- A condition on a place in a text. -/
inductive Place where
  | lineStart
  | lineEnd
  | textStart
  | textEnd
  | wordStart
  | wordEnd
  | wordEdge
  | noWordEdge
  deriving DecidableEq, Repr

/-- A token. -/
inductive Token where
  /-- A character in one of the ranges, or in none of them. -/
  | one (negated : Bool) (ranges : List CharRange)
  | place (p : Place)
  | opens
  | closes
  | bar
  /-- So many of what stands in front. -/
  | times (least : Nat) (most : Option Nat)
  /-- What a group matched, once more. -/
  | back (group : Nat)
  /-- A repetition with nothing in front, by its sign. -/
  | idle (sign : String)
  deriving DecidableEq, Repr

/-- A way of writing regular expressions. -/
structure Dialect where
  /-- Whether groups, bars and braces stand alone; else they stand behind backslashes. -/
  bareGroups : Bool
  /-- Whether the signs for once or more and for at most once stand alone. -/
  bareSigns : Bool
  /-- Whether there are repetitions in braces, and classes with names. -/
  hasBraces : Bool := true
  /-- Whether a repetition that makes no sense is refused. -/
  isStrict : Bool := false
  /-- Whether the end of a range may lie in front of its start. -/
  allowsEmptyRanges : Bool := false
  /-- Whether the name of a class in single brackets is refused. -/
  refusesBareClasses : Bool := false
  deriving DecidableEq, Repr

/-- What is wrong with a regular expression. -/
inductive Fault where
  | trailingBackslash
  | unmatchedBracket
  | unmatchedOpening
  | unmatchedClosing
  | unmatchedBrace
  | wrongBraces
  | tooBig
  | unknownClass
  | unknownElement
  | wrongRange
  | nothingToRepeat
  | unknownGroup
  | unfinished
  /-- The name of a class in single brackets. -/
  | bareClass
  deriving DecidableEq, Repr

/-- The text of a fault. -/
def Fault.message : Fault → String
  | trailingBackslash => "Trailing backslash"
  | unmatchedBracket => "Unmatched [, [^, [:, [., or [="
  | unmatchedOpening => "Unmatched ( or \\("
  | unmatchedClosing => "Unmatched ) or \\)"
  | unmatchedBrace => "Unmatched \\\x7b"
  | wrongBraces => "Invalid content of \\\x7b\\\x7d"
  | tooBig => "Regular expression too big"
  | unknownClass => "Invalid character class name"
  | unknownElement => "Invalid collation character"
  | wrongRange => "Invalid range end"
  | nothingToRepeat => "Invalid preceding regular expression"
  | unknownGroup => "Invalid back reference"
  | unfinished => "Invalid regular expression"
  | bareClass => "character class syntax is [[:space:]], not [:space:]"

namespace Token

/-- A character that stands for itself. -/
def exactly (c : Char) : Token := .one false [.span c c]

/-- Any character. -/
def any : Token := .one true []

/-- The ranges of the characters of words. -/
def wordRanges : List CharRange := [.named (raw "alnum"), .span '_' '_']

/-- The signs up to a comma or the closing brace, and the rest from there on. -/
def bound? (closing : Raw) : Raw → Option (Raw × Raw)
  | [] => none
  | c :: rest =>
      if c = ',' ∨ closing.isPrefixOf (c :: rest) then some ([], c :: rest)
      else (bound? closing rest).map fun (signs, behind) => (c :: signs, behind)

/-- What an opening brace is the start of. -/
inductive Braces where
  | times (least : Nat) (most : Option Nat) (rest : Raw)
  /-- The closing brace is missing. -/
  | unclosed
  /-- Something else than numbers stands between the braces. -/
  | other
  /-- The numbers make no sense. -/
  | wrong
  deriving DecidableEq, Repr

/-- What the braces hold that were opened in front of a text. -/
def braces (closing : Raw) (text : Raw) : Braces :=
  match bound? closing text with
  | none => .unclosed
  | some (first, rest) =>
      if first.isEmpty ∧ rest.head? ≠ some ',' then .wrong
      else if !first.all Char.isDigit then .other
      else
        let least := (Raw.digits? first).getD 0
        match rest with
        | ',' :: rest =>
            match bound? closing rest with
            | none => .unclosed
            | some (last, rest) =>
                let most := Raw.digits? last
                if !last.all Char.isDigit then .other
                else if rest.head? = some ',' ∨ most.any (· < least) then .wrong
                else .times least most (rest.drop closing.length)
        | _ => .times least (some least) (rest.drop closing.length)

/-- How often something may be repeated. -/
def mostTimes : Nat := 32767

/-- The name up to its closing mark, and what follows it. -/
def bracketName? (mark : Char) : Raw → Option (Raw × Raw)
  | [] => none
  | c :: rest =>
      if c = mark ∧ rest.head? = some ']' then some ([], rest.drop 1)
      else (bracketName? mark rest).map fun (name, behind) => (c :: name, behind)

/-- An element of a bracket: a character, which may start or end a range, or a set. -/
abbrev Element := Char ⊕ CharRange

/-- The element in front, and what follows it. -/
def element (d : Dialect) : Raw → Except Fault (Element × Raw)
  | [] => .error .unmatchedBracket
  | c :: rest =>
      let named := fun (mark : Char) (make : Raw → Except Fault Element) => do
        match bracketName? mark (rest.drop 1) with
        | some (name, behind) => return (← make name, behind)
        | none => throw .unmatchedBracket
      match c, rest with
      | '[', ':' :: _ =>
          if d.hasBraces then
            named ':' fun name =>
              if (characterClass? name).isSome then .ok (.inr (.named name)) else .error .unknownClass
          else .ok (.inl c, rest)
      | '[', '.' :: _ =>
          named '.' fun name => match name with
            | [e] => .ok (.inl e)
            | _ => .error .unknownElement
      | '[', '=' :: _ =>
          named '=' fun name => match name with
            | [e] => .ok (.inr (.span e e))
            | _ => .error .unknownElement
      | _, _ => .ok (.inl c, rest)

/-- The ranges of a bracket, and what follows it; `fuel` bounds their number. -/
def ranges (d : Dialect) : (fuel : Nat) → (first : Bool) → Raw →
    Except Fault (List CharRange × Raw)
  | 0, _, _ | _, _, [] => .error .unmatchedBracket
  | fuel + 1, first, c :: rest => do
      if c = ']' ∧ !first then return ([], rest)
      else if c = '-' ∧ !first ∧ rest.head? ≠ some ']' then throw .wrongRange
      else
        let item := fun (r : CharRange) (rest : Raw) => do
          let (more, rest) ← ranges d fuel false rest
          return (r :: more, rest)
        match ← element d (c :: rest) with
        | (.inr r, rest) => item r rest
        | (.inl start, '-' :: rest) =>
            if rest.head? = some ']' then item (.span start start) ('-' :: rest)
            else
              match ← element d rest with
              | (.inr _, _) => throw .wrongRange
              | (.inl stop, rest) =>
                  if stop.toNat < start.toNat ∧ !d.allowsEmptyRanges then throw .wrongRange
                  else item (.span start stop) rest
        | (.inl start, rest) => item (.span start start) rest

/-- Whether ranges are the letters of a name between colons. -/
def isBareName (found : List CharRange) : Bool :=
  let colon : CharRange := .span ':' ':'
  let isLetter := fun (r : CharRange) => match r with
    | .span a b => a == b
    | .named _ => false
  found.head? == some colon && found.getLast? == some colon && found.any (· != colon) &&
    found.all isLetter

/-- The set that a bracket opens, and what follows it. -/
def bracket (d : Dialect) (text : Raw) : Except Fault (Token × Raw) := do
  let negated := text.head? == some '^'
  let inner := if negated then text.drop 1 else text
  if inner.isEmpty then throw .unfinished
  else
    let (found, rest) ← ranges d (inner.length + 1) true inner
    return (.one negated found, rest)

/-- What a letter behind a backslash means in every way of writing. -/
def escaped? : Char → Option Token
  | 'w' => some (.one false wordRanges)
  | 'W' => some (.one true wordRanges)
  | 's' => some (.one false [.named (raw "space")])
  | 'S' => some (.one true [.named (raw "space")])
  | '<' => some (.place .wordStart)
  | '>' => some (.place .wordEnd)
  | 'b' => some (.place .wordEdge)
  | 'B' => some (.place .noWordEdge)
  | '\'' => some (.place .textEnd)
  | c =>
      if c.toNat = 96 then some (.place .textStart)
      else if '1' ≤ c ∧ c ≤ '9' then some (.back (c.toNat - 48))
      else none

/-- What stands in front of a place in an expression. -/
structure Front where
  /-- Whether there is nothing to repeat. -/
  lacksOperand : Bool
  /-- Whether an expression begins here. -/
  begins : Bool
  /-- Whether a repetition ends here. -/
  repeats : Bool
  /-- How many groups are open. -/
  depth : Nat
  deriving DecidableEq, Repr

/-- What stands in front of a whole expression. -/
def Front.nothing : Front := ⟨true, true, false, 0⟩

/-- What stands in front behind one token more.  A condition on a place leaves open whether there
is something to repeat; strictly there is not. -/
def Front.after (d : Dialect) (f : Front) : Token → Front
  | .opens => ⟨true, true, false, f.depth + 1⟩
  | .bar => ⟨true, true, false, f.depth⟩
  | .closes => ⟨false, false, false, f.depth - 1⟩
  | .place _ => ⟨f.lacksOperand || d.isStrict, false, false, f.depth⟩
  | .times .. => ⟨false, false, true, f.depth⟩
  | .idle _ => f
  | .one .. | .back _ => ⟨false, false, false, f.depth⟩

/-- The operators that stand behind a backslash, or that stand alone. -/
def operators (d : Dialect) (isEscaped : Bool) : Raw :=
  (if isEscaped != d.bareGroups then
      raw "()|" ++ (if d.hasBraces then ['\x7b'] else []) else []) ++
    (if isEscaped != d.bareSigns then raw "+?" else []) ++
    (if isEscaped then [] else raw "*")

/-- The operator that a sign writes, and what follows it. -/
def operator (d : Dialect) (f : Front) (sign : Char) (rest : Raw) : Except Fault (Token × Raw) :=
  let repetition := fun (t : Token) (name : String) (rest : Raw) =>
    if f.lacksOperand then
      if !d.bareGroups then .ok (exactly sign, rest)
      else if d.isStrict then .error .nothingToRepeat
      else .ok (.idle name, rest)
    else .ok (t, rest)
  let isDoubled := d.isStrict && !d.bareGroups && f.repeats
  match sign with
  | '(' => .ok (.opens, rest)
  | ')' =>
      .ok (if f.depth = 0 ∧ d.bareGroups ∧ !d.isStrict then exactly ')' else .closes, rest)
  | '|' => .ok (.bar, rest)
  | '*' => if isDoubled then .error .nothingToRepeat else repetition (.times 0 none) "*" rest
  | '+' => repetition (.times 1 none) "+" rest
  | '?' => repetition (.times 0 (some 1)) "?" rest
  | _ =>
      if isDoubled ∨ f.lacksOperand ∧ d.isStrict then .error .nothingToRepeat
      else if f.lacksOperand ∧ !d.bareGroups then .ok (exactly sign, rest)
      else
        let isOrdinary := d.bareGroups && !d.isStrict
        match braces (if d.bareGroups then ['\x7d'] else ['\\', '\x7d']) rest with
        | .times least most behind =>
            if mostTimes < most.getD least then .error .tooBig
            else repetition (.times least most) "\x7b...\x7d" behind
        | .unclosed => if isOrdinary then .ok (exactly sign, rest) else .error .unmatchedBrace
        | .other => if isOrdinary then .ok (exactly sign, rest) else .error .wrongBraces
        | .wrong => .error .wrongBraces

/-- Whether the end of a line is meant by the sign for it in front of a text. -/
def isEnd (d : Dialect) (rest : Raw) : Bool :=
  d.bareGroups || rest.isEmpty || (raw "\\)").isPrefixOf rest || (raw "\\|").isPrefixOf rest

/-- The token in front, and what follows it. -/
def next (d : Dialect) (f : Front) : Raw → Except Fault (Token × Raw)
  | [] | ['\\'] => .error .trailingBackslash
  | '\\' :: c :: rest =>
      if (operators d true).contains c then operator d f c rest
      else .ok ((escaped? c).getD (exactly c), rest)
  | c :: rest =>
      if (operators d false).contains c then operator d f c rest
      else
        match c with
        | '.' => .ok (any, rest)
        | '[' => bracket d rest
        | '^' => .ok (if d.bareGroups || f.begins then .place .lineStart else exactly '^', rest)
        | '$' => .ok (if isEnd d rest then .place .lineEnd else exactly '$', rest)
        | _ => .ok (exactly c, rest)

/-- The tokens of a text that has something in front; `fuel` bounds their number. -/
def ofText (d : Dialect) : (fuel : Nat) → Front → Raw → Except Fault (List Token)
  | 0, _, _ | _, _, [] => .ok []
  | fuel + 1, f, text => do
      let (t, rest) ← next d f text
      return t :: (← ofText d fuel (f.after d t) rest)

/-- The sign of a repetition with nothing in front. -/
def idle? : Token → Option String
  | .idle sign => some sign
  | _ => none

/-- Whether a token is a set that was meant to be a class. -/
def isBareClass : Token → Bool
  | .one _ found => isBareName found
  | _ => false

end Token

namespace Dialect

/-- Operators behind backslashes, and nothing refused that can be understood. -/
def basic : Dialect := { bareGroups := false, bareSigns := false, refusesBareClasses := true }

/-- Operators that stand alone, and nothing refused that can be understood. -/
def extended : Dialect := { bareGroups := true, bareSigns := true, refusesBareClasses := true }

end Dialect

end Bootstrap.Regex
