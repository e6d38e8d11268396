import Bootstrap.Text.Regex.Match
import Bootstrap.Utility.Attribute

/-!
# Expressions about files

An expression is made of questions about a file and of things to do with it, which
are true or false like questions.  What it is joined with decides whether a part
counts: behind a false one nothing is done.
-/

namespace Bootstrap.Utility.Find

open Machine

/-- How a number is compared with one that is given. -/
inductive Bound where
  | above (n : Nat)
  | below (n : Nat)
  | exactly (n : Nat)
  deriving DecidableEq, Repr

/-- Whether a number is within a bound. -/
def Bound.admits (m : Nat) : Bound → Bool
  | above n => n < m
  | below n => m < n
  | exactly n => m == n

/-- How permission bits are compared with some that are given. -/
inductive BitTest where
  | exactly
  | all
  | any
  deriving DecidableEq, Repr

/-- What can be asked about a file. -/
inductive Question where
  | always (answer : Bool)
  /-- Whether its name fits a pattern. -/
  | name (folds : Bool) (p : Pattern)
  /-- Whether its path does. -/
  | path (folds : Bool) (p : Pattern)
  /-- Whether it is a link whose text does. -/
  | target (folds : Bool) (p : Pattern)
  /-- Whether a regular expression fits its whole path. -/
  | expression (m : Matcher)
  /-- Whether its kind is one of some letters; links may be followed first. -/
  | kind (follows : Bool) (letters : Raw)
  /-- How many units of some size it takes. -/
  | size (b : Bound) (unit : Nat)
  | empty
  | bits (t : BitTest) (bits : Nat)
  /-- Whether it is younger than an instant. -/
  | newer (instant : Int)
  /-- How many units of some nanoseconds ago it was changed. -/
  | age (b : Bound) (unit : Nat)
  | links (b : Bound)
  | number (b : Bound)
  /-- Whether its owner may do what the bit stands for. -/
  | access (bit : Nat)
  | sameAs (number : Nat)

/-- What can be done with a file. -/
inductive Action where
  /-- Prints its path, with a character behind it. -/
  | print (ending : Char)
  | format (text : Raw)
  /-- Tells about it like a listing. -/
  | list
  /-- Runs a command for it, maybe in its directory. -/
  | run (inDirectory : Bool) (words : List Raw)
  /-- Runs a command for many files together; commands have different numbers. -/
  | runTogether (number : Nat) (words : List Raw)
  | remove
  /-- Keeps away from what is below it. -/
  | prune
  | quit

/-- An expression. -/
inductive Expr where
  | ask (q : Question)
  | act (a : Action)
  | not (e : Expr)
  | both (a b : Expr)
  | either (a b : Expr)
  /-- The second counts. -/
  | inTurn (a b : Expr)

namespace Expr

/-- Whether something in an expression does more than to guide the search. -/
def acts : Expr → Bool
  | ask _ | act .prune | act .quit => false
  | act _ => true
  | not e => e.acts
  | both a b | either a b | inTurn a b => a.acts || b.acts

end Expr

/-- What holds for a whole search. -/
structure Limits where
  least : Nat
  most : Option Nat
  /-- Whether a directory comes behind what is in it. -/
  inside : Bool
  /-- How many commands take files together. -/
  commands : Nat
  /-- The way in which regular expressions are written. -/
  dialect : Regex.Dialect

/-- The way of writing regular expressions that is used if none is named. -/
def plainDialect : Regex.Dialect := { bareGroups := false, bareSigns := true, hasBraces := false }

/-- The ways of writing regular expressions that have names. -/
def dialects : List (String × Regex.Dialect) :=
  let basic : Regex.Dialect := { bareGroups := false, bareSigns := false, isStrict := true }
  let extended : Regex.Dialect := { bareGroups := true, bareSigns := true, isStrict := true }
  let lenient := { extended with isStrict := false }
  [("findutils-default", plainDialect), ("ed", basic), ("emacs", plainDialect),
    ("gnu-awk", lenient), ("grep", { basic with isStrict := false }), ("posix-awk", extended),
    ("awk", { lenient with hasBraces := false }), ("posix-basic", basic), ("posix-egrep", lenient),
    ("egrep", lenient), ("posix-extended", extended),
    ("posix-minimal-basic", { basic with isStrict := false }), ("sed", basic)]

/-- A step that reads an expression.  The state holds the words that are left. -/
abbrev Reading := StateT (List Raw × Limits) Step

/-- Complains and ends the utility. -/
def wrong {α : Type} (text : Raw) : Reading α := do
  Step.complain text
  Step.exit 1

/-- A name between the signs that the complaints put around it. -/
def marked (word : Raw) : Raw := '\x60' :: word ++ ['\'']

/-- Takes the next word. -/
def next? : Reading (Option Raw) := do
  match ← get with
  | (word :: rest, limits) => set (rest, limits); return some word
  | _ => return none

/-- Takes the argument of a part. -/
def argument (part : Raw) : Reading Raw := do
  match ← next? with
  | some word => return word
  | none => wrong (raw "missing argument to " ++ marked part)

/-- Reads a bound. -/
def bound? (text : Raw) : Option Bound :=
  match text with
  | '+' :: rest => (Raw.digits? rest).map .above
  | '-' :: rest => (Raw.digits? rest).map .below
  | rest => (Raw.digits? rest).map .exactly

/-- Takes a bound. -/
def bound (part : Raw) : Reading Bound := do
  let text ← argument part
  match bound? text with
  | some b => return b
  | none =>
      wrong (raw "non-numeric argument to " ++ part.drop 1 ++ raw ": " ++ marked text)

/-- Takes a number for a limit. -/
def depth (part : Raw) : Reading Nat := do
  let text ← argument part
  match Raw.digits? text with
  | some n => return n
  | none =>
      wrong (raw "Expected a positive decimal integer argument to " ++ part ++ raw ", but got " ++
        NameQuoted.always text)

/-- The sizes of the units of `-size`. -/
def units : List (Char × Nat) :=
  [('b', 512), ('c', 1), ('w', 2), ('k', 1024), ('M', 1048576), ('G', 1073741824)]

/-- Takes a size. -/
def size : Reading Question := do
  let text ← argument (raw "-size")
  let last := text.getLast?.getD ' '
  let (body, unit) ←
    if last.isDigit then pure (text, 512)
    else
      match units.lookup last with
      | some unit => pure (text.dropLast, unit)
      | none => wrong (raw "invalid -size type " ++ marked [last])
  match bound? body with
  | some b => return .size b unit
  | none => wrong (raw "Invalid argument " ++ marked text ++ raw " to -size")

/-- Takes permission bits. -/
def bits : Reading Question := do
  let text ← argument (raw "-perm")
  let (test, body) := match text with
    | '-' :: rest => (BitTest.all, rest)
    | '/' :: rest => (.any, rest)
    | rest => (.exactly, rest)
  match ModeChange.ofText? body with
  | some change => return .bits test (change.apply 0 false 0)
  | none => wrong (raw "invalid mode " ++ NameQuoted.always text)

/-- Takes the kinds of files, letters with commas between them. -/
def kinds (follows : Bool) (part : Raw) : Reading Question := do
  let text ← argument part
  if text.isEmpty then
    wrong (raw "Arguments to " ++ part ++ raw " should contain at least one letter")
  else
    let letters := text.splitOn ','
    match letters.find? fun t => !(t.length == 1 && t.all fun c => "bcdpflsD".toList.contains c) with
    | some t =>
        if 1 < t.length ∧ "bcdpflsD".toList.contains (t.headD ' ') then
          wrong (raw "Must separate multiple arguments to " ++ part ++ raw " using: ','")
        else wrong (raw "Unknown argument to " ++ part ++ raw ": " ++ t.take 1)
    | none => return .kind follows letters.flatten

/-- Takes the name of a file, which has to be there. -/
def facts (part : Raw) : Reading FileFacts := do
  let name ← argument part
  match ← factsOf false name with
  | .ok f => return f
  | .error e => wrong (NameQuoted.always name ++ raw ": " ++ raw e.strerror)

/-- Takes the words of a command, up to the sign that ends it. -/
def command (inDirectory : Bool) (part : Raw) : Reading Action := do
  let (words, limits) ← get
  let front := words.takeWhile (· ≠ [';'])
  let together := words.takeWhile (· ≠ ['+'])
  let hole := raw "\x7b\x7d"
  if together.length < words.length && together.getLast? == some hole &&
      together.length < front.length then
    set (words.drop (together.length + 1), { limits with commands := limits.commands + 1 })
    return .runTogether limits.commands together.dropLast
  else if front.length < words.length && !front.isEmpty then
    set (words.drop (front.length + 1), limits)
    return .run inDirectory front
  else wrong (raw "missing argument to " ++ marked part)

/-- Changes the limits. -/
def limit (change : Limits → Limits) : Reading Expr := do
  modify fun (words, limits) => (words, change limits)
  return .ask (.always true)

/-- Reads a part by its word. -/
def part (word : Raw) : Reading Expr := do
  let pattern := fun (make : Pattern → Question) => do
    return Expr.ask (make (Pattern.ofText (Raw.lower (← argument word))))
  let exact := fun (make : Pattern → Question) => do
    return Expr.ask (make (Pattern.ofText (← argument word)))
  let expression := fun (folds : Bool) => do
    let text ← argument word
    match Matcher.ofText (← get).2.dialect folds false text with
    | .ok m => return Expr.ask (.expression m)
    | .error fault =>
        wrong (raw "failed to compile regular expression " ++ NameQuoted.always text ++ raw ": " ++
          raw fault.message)
  match Raw.toString (word.drop 1) with
  | "name" => exact (.name false)
  | "iname" => pattern (.name true)
  | "path" | "wholename" => exact (.path false)
  | "ipath" | "iwholename" => pattern (.path true)
  | "lname" => exact (.target false)
  | "ilname" => pattern (.target true)
  | "regex" => expression false
  | "iregex" => expression true
  | "regextype" => do
      let kind ← argument word
      match dialects.lookup (Raw.toString kind) with
      | some found => limit fun l => { l with dialect := found }
      | none =>
          let names := dialects.map fun d => NameQuoted.always (raw d.1)
          wrong (raw "Unknown regular expression type " ++ NameQuoted.always kind ++
            raw "; valid types are " ++ Raw.joined (raw ", ") names ++ ['.'])
  | "type" => return .ask (← kinds false word)
  | "xtype" => return .ask (← kinds true word)
  | "size" => return .ask (← size)
  | "empty" => return .ask .empty
  | "perm" => return .ask (← bits)
  | "newer" | "anewer" | "cnewer" | "newermm" => return .ask (.newer (← facts word).time)
  | "mtime" | "atime" | "ctime" => return .ask (.age (← bound word) 86400000000000)
  | "mmin" | "amin" | "cmin" => return .ask (.age (← bound word) 60000000000)
  | "links" => return .ask (.links (← bound word))
  | "inum" => return .ask (.number (← bound word))
  | "samefile" => return .ask (.sameAs (← facts word).number)
  | "readable" => return .ask (.access 4)
  | "writable" => return .ask (.access 2)
  | "executable" => return .ask (.access 1)
  | "true" => return .ask (.always true)
  | "false" => return .ask (.always false)
  | "user" => do
      let name ← argument word
      if name = raw "root" ∨ (Raw.digits? name).isSome then
        return .ask (.always (name = raw "root" || Raw.digits? name == some 0))
      else wrong (NameQuoted.always name ++ raw " is not the name of a known user")
  | "group" => do
      let name ← argument word
      if name = raw "root" ∨ (Raw.digits? name).isSome then
        return .ask (.always (name = raw "root" || Raw.digits? name == some 0))
      else wrong (NameQuoted.always name ++ raw " is not the name of an existing group")
  | "uid" | "gid" => return .ask (.always ((← bound word).admits 0))
  | "nouser" | "nogroup" => return .ask (.always false)
  | "maxdepth" => do
      let n ← depth word
      limit fun l => { l with most := some n }
  | "mindepth" => do
      let n ← depth word
      limit fun l => { l with least := n }
  | "depth" | "d" => limit fun l => { l with inside := true }
  | "mount" | "xdev" | "noleaf" | "daystart" | "warn" | "nowarn" | "ignore_readdir_race"
  | "noignore_readdir_race" => return .ask (.always true)
  | "print" => return .act (.print '\n')
  | "print0" => return .act (.print (Raw.byte 0))
  | "printf" => return .act (.format (← argument word))
  | "ls" => return .act .list
  | "exec" | "ok" => return .act (← command false word)
  | "execdir" | "okdir" => return .act (← command true word)
  | "delete" => do
      modify fun (words, l) => (words, { l with inside := true })
      return .act .remove
  | "prune" => return .act .prune
  | "quit" => return .act .quit
  | _ => wrong (raw "unknown predicate " ++ marked word)

/-- How tightly a sign joins: what is joined by a tighter one belongs together. -/
inductive Joint where
  | inTurn
  | either
  | both
  deriving DecidableEq, Repr

/-- The signs of a joint. -/
def Joint.signs : Joint → List Raw
  | inTurn => [[',']]
  | either => [raw "-o", raw "-or"]
  | both => [raw "-a", raw "-and"]

/-- The expression that a joint makes of two. -/
def Joint.join : Joint → Expr → Expr → Expr
  | inTurn => .inTurn
  | either => .either
  | both => .both

/-- The joint of a sign. -/
def joint? (word : Raw) : Option Joint :=
  [Joint.inTurn, .either, .both].find? fun j => j.signs.contains word

mutual

/-- Reads an expression whose parts are joined; `fuel` bounds the number of words. -/
def joined (fuel : Nat) (j : Joint) : Reading Expr :=
  match fuel with
  | 0 => wrong (raw "invalid expression")
  | fuel + 1 => do
      let first ← tighter fuel j
      further fuel j first

/-- Reads what is joined by tighter signs. -/
def tighter (fuel : Nat) (j : Joint) : Reading Expr :=
  match fuel, j with
  | 0, _ => wrong (raw "invalid expression")
  | fuel + 1, .inTurn => joined fuel .either
  | fuel + 1, .either => joined fuel .both
  | fuel + 1, .both => single fuel

/-- Reads the further parts of an expression. -/
def further (fuel : Nat) (j : Joint) (first : Expr) : Reading Expr :=
  match fuel with
  | 0 => wrong (raw "invalid expression")
  | fuel + 1 => do
      match (← get).1 with
      | [] => return first
      | word :: _ =>
          if j.signs.contains word then
            let _ ← next?
            if (← get).1.isEmpty then
              wrong (raw "expected an expression after " ++ NameQuoted.always word)
            else further fuel j (j.join first (← tighter fuel j))
          else if j = .both ∧ (joint? word).isNone ∧ word ≠ [')'] then
            further fuel j (j.join first (← tighter fuel j))
          else return first

/-- Reads a part that may be negated or stand in parentheses. -/
def single (fuel : Nat) : Reading Expr :=
  match fuel with
  | 0 => wrong (raw "invalid expression")
  | fuel + 1 => do
      match ← next? with
      | none => wrong (raw "invalid expression")
      | some word =>
          if word = ['!'] ∨ word = raw "-not" then
            if (← get).1.isEmpty then
              wrong (raw "expected an expression after " ++ NameQuoted.always word)
            else return .not (← single fuel)
          else if word = ['('] then
            if (← get).1.head? = some [')'] then
              wrong (raw "invalid expression; empty parentheses are not allowed.")
            else if (← get).1.isEmpty then unclosed
            else
              let inner ← joined fuel .inTurn
              match ← next? with
              | some [')'] => return inner
              | _ => unclosed
          else if word = [')'] then
            wrong (raw "invalid expression; you have too many ')'")
          else if (joint? word).isSome then
            wrong (raw "invalid expression; you have used a binary operator " ++
              NameQuoted.always word ++ raw " with nothing before it.")
          else if word.head? = some '-' ∧ 1 < word.length then part word
          else
            wrong (raw "paths must precede expression: " ++ marked word)

/-- Complains about a parenthesis that is not closed. -/
def unclosed : Reading Expr :=
  wrong (raw "invalid expression; expected to find a ')' but didn't see one. " ++
    raw "Perhaps you need an extra predicate after '('")

end

/-- Reads an expression.  One that does nothing has the paths printed. -/
def read (words : List Raw) : Step (Expr × Limits) := do
  let limits : Limits := ⟨0, none, false, 0, plainDialect⟩
  if words.isEmpty then return (.act (.print '\n'), limits)
  else
    let (e, rest, limits) ← (joined (8 * words.length + 8) .inTurn).run (words, limits)
    match rest with
    | [] => return (if e.acts then e else .both e (.act (.print '\n')), limits)
    | _ =>
        Step.complain (raw "you have too many ')'")
        Step.exit 1

end Bootstrap.Utility.Find
