import Bootstrap.Text.Regex.Reader

/-!
# Matches of regular expressions

A match begins as early as possible and is then as long as possible; within it the
earlier parts of the expression take as much as they can.

From a place in the text an expression leads to several others.  All of them are
found, the farthest first, each with what the groups matched on the way; of several
ways to one place the first counts, unless the expression refers back to groups.
-/

namespace Bootstrap.Regex

/-- How an expression is matched. -/
structure Manner where
  /-- Whether capital and small letters are alike. -/
  folds : Bool
  /-- Whether lines within the text have a start and an end. -/
  byLine : Bool
  /-- Whether the ways to one place are told apart by their groups. -/
  keepsWays : Bool

/-- A place that was reached, with the stretches that groups matched. -/
structure Way where
  position : Nat
  groups : List (Nat × Nat × Nat)
  deriving DecidableEq, Repr

namespace Way

/-- The stretch that a group matched; group zero is the whole match. -/
def group? (w : Way) (start number : Nat) : Option (Nat × Nat) :=
  if number = 0 then some (start, w.position) else w.groups.lookup number

end Way

/-- Whether a character belongs to words. -/
def isWordChar (c : Char) : Bool := c.isAlphanum || c == '_'

/-- Whether a place in a text is as a condition asks for. -/
def holdsAt (m : Manner) (text : Array Char) (position : Nat) : Place → Bool
  | .textStart => position = 0
  | .textEnd => position = text.size
  | .lineStart => position = 0 || m.byLine && text[position - 1]? == some '\n'
  | .lineEnd => position = text.size || m.byLine && text[position]? == some '\n'
  | .wordStart => !before && behind
  | .wordEnd => before && !behind
  | .wordEdge => before != behind
  | .noWordEdge => before == behind
where
  /-- Whether a word's character stands in front. -/
  before : Bool := 0 < position && (text[position - 1]?.map isWordChar).getD false
  /-- Whether a word's character follows. -/
  behind : Bool := (text[position]?.map isWordChar).getD false

/-- Whether a set allows a character. -/
def allows (m : Manner) (negated : Bool) (ranges : List CharRange) (c : Char) : Bool :=
  let isIn := fun (c : Char) => ranges.any (·.contains c)
  (isIn c || m.folds && (isIn c.toLower || isIn c.toUpper)) != negated

/-- Ways without those to a place that an earlier one leads to. -/
def distinct (m : Manner) (ways : List Way) : List Way :=
  (ways.foldl (fun (kept : List Way) w =>
    if kept.any fun k => k.position == w.position && (!m.keepsWays || k.groups == w.groups) then kept
    else w :: kept) []).reverse

/-- Ways in order, the farthest first. -/
def farthestFirst (m : Manner) (ways : List Way) : List Way :=
  match ways with
  | [] | [_] => ways
  | _ => (distinct m ways).mergeSort fun a b => b.position ≤ a.position

/-- What is reached by repeating a step from some ways on: `count` steps are taken already, and
`fuel` bounds those that may follow.  A step that gets nowhere is not repeated. -/
def reachAgain (m : Manner) (step : Way → List Way) (least : Nat) (most : Option Nat) :
    (fuel : Nat) → (count : Nat) → List Way → List Way
  | 0, count, ways => if least ≤ count then ways else []
  | fuel + 1, count, ways =>
      let here := if least ≤ count then ways else []
      if most.any (· ≤ count) || ways.isEmpty then here
      else
        let next := ways.flatMap fun w =>
          (step w).filter fun v => w.position < v.position || count < least
        reachAgain m step least most fuel (count + 1) (distinct m next) ++ here

/-- Where an expression leads to from a way. -/
def ways (m : Manner) (text : Array Char) : Regex → Way → List Way
  | .empty, w => [w]
  | .one negated ranges, w =>
      match text[w.position]? with
      | some c => if allows m negated ranges c then [{ w with position := w.position + 1 }] else []
      | none => []
  | .place p, w => if holdsAt m text w.position p then [w] else []
  | .group n r, w =>
      (ways m text r w).map fun v => { v with groups := (n, w.position, v.position) :: v.groups }
  | .back n, w =>
      match w.groups.lookup n with
      | none => []
      | some (start, stop) =>
          let length := stop - start
          let fold := fun (c : Char) => if m.folds then c.toLower else c
          let isSame := (List.range length).all fun i =>
            match text[start + i]?, text[w.position + i]? with
            | some c, some d => fold c == fold d
            | _, _ => false
          if isSame then [{ w with position := w.position + length }] else []
  | .both r s, w => farthestFirstOf ((ways m text r w).flatMap (ways m text s))
  | .either r s, w => farthestFirst m (ways m text r w ++ ways m text s w)
  | .repeated r least most, w =>
      farthestFirst m
        (reachAgain m (ways m text r) least most (text.size + least + 1) 0 [w])
where
  /-- Ways to places that differ, in the order of their first parts. -/
  farthestFirstOf (found : List Way) : List Way :=
    match found with
    | [] | [_] => found
    | _ => distinct m found

/-- The farthest of some ways; of several the first. -/
def farthest? : List Way → Option Way
  | [] => none
  | w :: rest =>
      match farthest? rest with
      | some v => if w.position < v.position then some v else some w
      | none => some w

/-- A match: where it begins, and the way to its end. -/
structure Match where
  start : Nat
  way : Way

namespace Match

/-- The place behind the match. -/
def stop (m : Match) : Nat := m.way.position

/-- The text that a group matched; group zero is the whole match. -/
def group (m : Match) (text : Array Char) (number : Nat) : Raw :=
  match m.way.group? m.start number with
  | some (start, stop) => (text.extract start stop).toList
  | none => []

end Match

/-- The first match from a position on; `count` bounds the positions that are tried. -/
def findFrom (m : Manner) (r : Regex) (text : Array Char) :
    (count : Nat) → (position : Nat) → Option Match
  | 0, _ => none
  | count + 1, position =>
      match farthest? (ways m text r ⟨position, []⟩) with
      | some w => some ⟨position, w⟩
      | none => findFrom m r text count (position + 1)

end Regex

/-- An expression with the manner of matching it. -/
structure Matcher where
  body : Regex
  groups : Nat
  manner : Regex.Manner
  /-- The signs of repetitions that had nothing in front. -/
  idle : List String

namespace Matcher

/-- Reads an expression. -/
def ofText (d : Regex.Dialect) (folds byLine : Bool) (text : Raw) : Except Regex.Fault Matcher := do
  let tokens ← Regex.Token.ofText d (text.length + 1) .nothing text
  let (body, groups) ← Regex.ofTokens tokens
  if d.refusesBareClasses ∧ tokens.any (·.isBareClass) then throw .bareClass
  else return ⟨body, groups, ⟨folds, byLine, body.refersBack⟩, tokens.filterMap (·.idle?)⟩

/-- The expression that a text without operators is. -/
def literal (folds : Bool) (text : Raw) : Matcher := ⟨Regex.literal text, 0, ⟨folds, false, false⟩, []⟩

/-- The first match in a text from a position on. -/
def find? (m : Matcher) (text : Array Char) (position : Nat) : Option Regex.Match :=
  Regex.findFrom m.manner m.body text (text.size + 1 - position) position

/-- The match that begins at a position. -/
def matchAt? (m : Matcher) (text : Array Char) (position : Nat) : Option Regex.Match :=
  (Regex.farthest? (Regex.ways m.manner text m.body ⟨position, []⟩)).map fun w => ⟨position, w⟩

/-- The match that is the whole text. -/
def matchWhole? (m : Matcher) (text : Array Char) : Option Regex.Match :=
  ((Regex.ways m.manner text m.body ⟨0, []⟩).find? fun w => w.position == text.size).map
    fun w => ⟨0, w⟩

end Matcher

end Bootstrap
