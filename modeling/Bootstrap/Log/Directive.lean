import Bootstrap.Log
import Bootstrap.Text.Blank

/-!
# Directives

A filter is written as directives with commas between them:

    level                      everything up to a level
    source                     everything from a source
    source=level               a source up to a level
    source[span]=level         what happens within a span
    [span\x7bfield\x7d]=level       the same, if the span has a value

Nothing here happens within a span.  A directive that names one is understood, and
rules nothing; one that only names values rules the records that have them.
-/

namespace Bootstrap.LogFilter

/-- The number that digits write, a plus sign before them apart. -/
def number? (word : List Char) : Option Nat :=
  let digits := match word with
    | '+' :: rest => rest
    | _ => word
  if digits.isEmpty || !digits.all Char.isDigit then none
  else some (digits.foldl (fun n c => 10 * n + (c.toNat - 48)) 0)

/-- The rank that a word means: the name of a level in any case, or its number. -/
def rankOf? (word : List Char) : Option Nat :=
  match number? word with
  | some n => if n ≤ LogLevel.trace.rank then some n else none
  | none =>
      match String.ofList (word.map Char.toLower) with
      | "off" => some 0
      | "error" => some LogLevel.error.rank
      | "warn" => some LogLevel.warn.rank
      | "info" => some LogLevel.info.rank
      | "debug" => some LogLevel.debug.rank
      | "trace" => some LogLevel.trace.rank
      | _ => none

/-- Ranges of code points behind the controls that are neither letters nor digits. -/
def signRanges : List (Nat × Nat) :=
  [(0x80, 0xA9), (0xAB, 0xB1), (0xB4, 0xB4), (0xB6, 0xB8), (0xBB, 0xBB), (0xBF, 0xBF),
    (0xD7, 0xD7), (0xF7, 0xF7), (0x2C2, 0x2C5), (0x2D2, 0x2DF), (0x300, 0x344), (0x2000, 0x206F),
    (0x20A0, 0x20CF), (0x2190, 0x245F), (0x2500, 0x2775), (0x2794, 0x2BFF), (0x3000, 0x3004),
    (0x3008, 0x3020), (0xE000, 0xF8FF), (0xFE10, 0xFE6F), (0xFF01, 0xFF0F), (0xFF1A, 0xFF20),
    (0x1F000, 0x1FAFF)]

/-- Whether a directive may begin with a character: a letter, a digit, or one of three signs. -/
def mayBegin (c : Char) : Bool :=
  c.isAlphanum || c == '-' || c == ':' || c == '_' ||
    (0x80 ≤ c.toNat && !signRanges.any fun (low, high) => low ≤ c.toNat && c.toNat ≤ high)

/-- What is behind the name of a directive. -/
inductive Scope where
  /-- It says nothing of spans or values. -/
  | everywhere
  /-- It names a span, or the value that something has. -/
  | within
  /-- It names a value that a record has to have. -/
  | having (field : String)

/-- Reads what stands between the brackets of a directive, with what follows them. -/
def readScope? (inner : List Char) : Option (Scope × List Char) :=
  let span := inner.takeWhile fun c => c != ']' && c != '\x7b'
  match inner.drop span.length with
  | ']' :: rest => some (.within, rest)
  | _ :: fields =>
      let field := fields.takeWhile (· != '\x7d')
      match fields.drop field.length with
      | _ :: ']' :: rest =>
          if field.isEmpty then none
          else if span.isEmpty && !field.contains '=' then
            some (.having (String.ofList field), rest)
          else some (.within, rest)
      | _ => none
  | [] => none

/-- Reads the level behind an equals sign; nothing there means everything. -/
def readLevel? (word : List Char) : Option Nat :=
  if word.isEmpty then some LogLevel.trace.rank else rankOf? word

/-- The rules of a directive. -/
def ruled (source : Option (List Char)) (scope : Scope) (rank : Nat) : List LogRule :=
  match scope with
  | .everywhere => [⟨source.map String.ofList, [], rank⟩]
  | .having field => [⟨source.map String.ofList, [field], rank⟩]
  | .within => []

/-- Reads one directive.  It is cut where its signs stand once blanks around it are gone, but the
parts are taken from the text as it is. -/
def readDirective? (text : List Char) : Option (List LogRule) := do
  let seen := ((text.dropWhile Text.isBlank).reverse.dropWhile Text.isBlank).reverse
  let name := seen.takeWhile fun c => c != '=' && c != '['
  let taken := text.take name.length
  match name, seen.drop name.length with
  | c :: _, [] =>
      if !mayBegin c then none
      else
        match rankOf? text with
        | some rank => return ruled none .everywhere rank
        | none => return ruled (some text) .everywhere LogLevel.trace.rank
  | c :: _, '=' :: _ =>
      if !mayBegin c then none
      else return ruled (some taken) .everywhere (← readLevel? (text.drop (name.length + 1)))
  | c :: _, _ :: inner => if !mayBegin c then none else bracketed (some taken) inner
  | [], '[' :: inner => bracketed none inner
  | [], _ => none
where
  /-- Reads a directive from behind its opening bracket. -/
  bracketed (source : Option (List Char)) (inner : List Char) : Option (List LogRule) := do
    let (scope, rest) ← readScope? inner
    match rest with
    | [] => return ruled source scope LogLevel.trace.rank
    | '=' :: level => return ruled source scope (← readLevel? level)
    | _ => none

/-- Reads a filter.  One without directives shows errors alone. -/
def read? (text : String) : Option LogFilter := do
  let directives := (text.toList.splitOn ',').filter (!·.isEmpty)
  if directives.isEmpty then return upTo .error
  else return ⟨(← directives.mapM readDirective?).flatten⟩

end Bootstrap.LogFilter
