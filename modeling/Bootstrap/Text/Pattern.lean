import Bootstrap.Text.Raw

/-!
# Patterns

In a pattern `*` stands for any text, `?` for any character, and a bracket for
any character of a set.  A backslash takes its meaning from what follows it, and
characters that were quoted have none: they stand for themselves.
-/

namespace Bootstrap

/-- A character, and whether it may act in a pattern. -/
structure Mark where
  char : Char
  active : Bool
  deriving DecidableEq, Repr

namespace Mark

/-- The characters of a text, all of which may act. -/
def all (text : Raw) : List Mark := text.map (⟨·, true⟩)

/-- Whether a mark is a character that acts. -/
def acts (c : Char) (m : Mark) : Bool := m.active && m.char == c

end Mark

/-- The classes of characters that a bracket can name. -/
def characterClasses : List (String × (Char → Bool)) :=
  [("alnum", Char.isAlphanum), ("alpha", Char.isAlpha),
    ("blank", fun c => c == ' ' || c == '\t'),
    ("cntrl", fun c => c.toNat < 32 || c.toNat == 127), ("digit", Char.isDigit),
    ("graph", fun c => 32 < c.toNat && c.toNat < 127), ("lower", Char.isLower),
    ("print", fun c => 32 ≤ c.toNat && c.toNat < 127),
    ("punct", fun c => 32 < c.toNat && c.toNat < 127 && !c.isAlphanum),
    ("space", Raw.isBlank), ("upper", Char.isUpper),
    ("xdigit", fun c => (Raw.digit? 16 c).isSome)]

/-- The class with a name. -/
def characterClass? (name : Raw) : Option (Char → Bool) :=
  (characterClasses.find? fun c => raw c.1 = name).map (·.2)

/-- Some characters of a set. -/
inductive CharRange where
  | span (first last : Char)
  /-- The characters of a class, by its name. -/
  | named (name : Raw)
  deriving DecidableEq, Repr

namespace CharRange

/-- Whether a character is one of them. -/
def contains (c : Char) : CharRange → Bool
  | span first last => first ≤ c && c ≤ last
  | named name => ((characterClass? name).map (· c)).getD false

end CharRange

/-- An item of a pattern. -/
inductive PatternItem where
  | anyText
  | anyChar
  /-- A character in one of the ranges, or in none of them. -/
  | oneOf (negated : Bool) (ranges : List CharRange)
  | exactly (c : Char)
  deriving DecidableEq, Repr

namespace PatternItem

/-- Whether an item for one character allows it. -/
def allows (c : Char) : PatternItem → Bool
  | anyText | anyChar => true
  | oneOf negated ranges => ranges.any (·.contains c) != negated
  | exactly d => c == d

end PatternItem

/-- A pattern. -/
abbrev Pattern := List PatternItem

namespace Pattern

/-- The class that is named behind an opening bracket, and what follows its name. -/
def class? (marks : List Mark) : Option (Raw × List Mark) :=
  match marks with
  | ⟨':', true⟩ :: rest =>
      let name := (rest.takeWhile fun m => m.active && m.char.isLower).map Mark.char
      match rest.drop name.length with
      | ⟨':', true⟩ :: ⟨']', true⟩ :: after =>
          if (characterClass? name).isSome then some (name, after) else none
      | _ => none
  | _ => none

/-- The character that a range begins or ends with, and what follows it. -/
def edge? : List Mark → Option (Char × List Mark)
  | ⟨'\\', true⟩ :: m :: rest => some (m.char, rest)
  | m :: rest => some (m.char, rest)
  | [] => none

/-- The ranges of a bracket, and what follows it; a closing bracket that comes first is an ordinary
character.  `fuel` bounds their number. -/
def ranges? : (fuel : Nat) → (first : Bool) → List Mark → Option (List CharRange × List Mark)
  | 0, _, _ | _, _, [] => none
  | fuel + 1, first, m :: rest =>
      if m.acts ']' && !first then some ([], rest)
      else
        match if m.acts '[' then class? rest else none with
        | some (name, after) => do
            let (rs, after) ← ranges? fuel false after
            return (.named name :: rs, after)
        | none => do
            let (c, behind) ← edge? (m :: rest)
            match behind with
            | d :: n :: more =>
                if d.acts '-' && !n.acts ']' then
                  let (last, behind) ← edge? (n :: more)
                  let (rs, after) ← ranges? fuel false behind
                  return (.span c last :: rs, after)
                else
                  let (rs, after) ← ranges? fuel false behind
                  return (.span c c :: rs, after)
            | _ =>
                let (rs, after) ← ranges? fuel false behind
                return (.span c c :: rs, after)

/-- The set that a bracket opens, and what follows it; `inverting` are the characters that turn a set
round. -/
def bracket? (inverting : Raw) (marks : List Mark) : Option (PatternItem × List Mark) :=
  match marks with
  | m :: rest =>
      if m.active && inverting.contains m.char then
        (ranges? marks.length true rest).map fun (rs, rest) => (.oneOf true rs, rest)
      else (ranges? marks.length true marks).map fun (rs, rest) => (.oneOf false rs, rest)
  | [] => none

/-- The pattern that marked characters write; `fuel` bounds their number. -/
def read (inverting : Raw) : (fuel : Nat) → List Mark → Pattern
  | 0, _ | _, [] => []
  | fuel + 1, m :: rest =>
      if m.acts '*' then .anyText :: read inverting fuel rest
      else if m.acts '?' then .anyChar :: read inverting fuel rest
      else if m.acts '[' then
        match bracket? inverting rest with
        | some (item, rest) => item :: read inverting fuel rest
        | none => .exactly '[' :: read inverting fuel rest
      else if m.acts '\\' then
        match rest with
        | n :: rest => .exactly n.char :: read inverting fuel rest
        | [] => [.exactly '\\']
      else .exactly m.char :: read inverting fuel rest

/-- The pattern that marked characters write. -/
def ofMarks (marks : List Mark) : Pattern := read ['!'] marks.length marks

/-- The pattern that a text writes, in which a set may be turned round by a circumflex too. -/
def ofText (text : Raw) : Pattern := read ['!', '^'] text.length (Mark.all text)

/-- Whether a pattern matches a whole text. -/
def isMatch : Pattern → Raw → Bool
  | [], text => text.isEmpty
  | .anyText :: rest, [] => isMatch rest []
  | .anyText :: rest, c :: text => isMatch rest (c :: text) || isMatch (.anyText :: rest) text
  | _ :: _, [] => false
  | item :: rest, c :: text => item.allows c && isMatch rest text
termination_by p text => p.length + text.length

/-- The text without what the pattern matches at its front, as little or as much as possible. -/
def withoutFront (longest : Bool) (p : Pattern) (text : Raw) : Raw :=
  let lengths := List.range (text.length + 1)
  let lengths := if longest then lengths.reverse else lengths
  match lengths.find? fun n => isMatch p (text.take n) with
  | some n => text.drop n
  | none => text

/-- The text without what the pattern matches at its back, as little or as much as possible. -/
def withoutBack (longest : Bool) (p : Pattern) (text : Raw) : Raw :=
  let lengths := List.range (text.length + 1)
  let lengths := if longest then lengths else lengths.reverse
  match lengths.find? fun n => isMatch p (text.drop n) with
  | some n => text.take n
  | none => text

/-- Whether marked characters hold anything that acts in a pattern. -/
def isActive (marks : List Mark) : Bool :=
  marks.any fun m => m.active && "*?[".toList.contains m.char

end Pattern

end Bootstrap
