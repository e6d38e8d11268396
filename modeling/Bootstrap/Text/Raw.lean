import Bootstrap.Path
import Bootstrap.Text.Utf8

/-!
# Texts of bytes

Programs that work on text deal in bytes.  Such a text is a list of characters of
which each stands for one byte, so that quoting, splitting and matching can be
written with characters.
-/

namespace Bootstrap

/-- A text of bytes; every character stands for one byte. -/
abbrev Raw := List Char

/-- A text of the program itself. -/
def raw (s : String) : Raw := s.toList

namespace Raw

/-- The text of some bytes. -/
def ofBytes (b : Bytes) : Raw := b.map fun x => Char.ofNat x.toNat

/-- The bytes of a text. -/
def toBytes (r : Raw) : Bytes := r.map fun c => UInt8.ofNat c.toNat

/-- The bytes of a string, as a text. -/
def ofString (s : String) : Raw := ofBytes (Text.Utf8.encode s)

/-- The string that the bytes of a text write. -/
def toString (r : Raw) : String := Text.Utf8.decodeLossy (toBytes r)

/-- The path that a text writes. -/
def path (r : Raw) : Path := ⟨toString r⟩

/-- The decimal digits of a number. -/
def ofNat (n : Nat) : Raw := Nat.toDigits 10 n

/-- The decimal digits of an integer, behind a sign if it is negative. -/
def ofInt (n : Int) : Raw := if n < 0 then '-' :: ofNat n.natAbs else ofNat n.natAbs

/-- A byte by its number. -/
def byte (n : Nat) : Char := Char.ofNat (n % 256)

/-- The value of a digit in a base of at most thirty-six. -/
def digit? (base : Nat) (c : Char) : Option Nat :=
  let value :=
    if '0' ≤ c ∧ c ≤ '9' then c.toNat - 48
    else if 'a' ≤ c ∧ c ≤ 'z' then c.toNat - 87
    else if 'A' ≤ c ∧ c ≤ 'Z' then c.toNat - 55
    else base
  if value < base then some value else none

/-- The number that digits write in a base. -/
def inBase? (base : Nat) (r : Raw) : Option Nat :=
  if r.isEmpty then none
  else r.foldlM (fun acc c => (digit? base c).map (base * acc + ·)) 0

/-- The number that decimal digits write. -/
def digits? (r : Raw) : Option Nat := inBase? 10 r

/-- Whether a character is a blank: a space, a tab, or one of the characters that end lines and
pages. -/
def isBlank (c : Char) : Bool := c == ' ' || (9 ≤ c.toNat && c.toNat ≤ 13)

/-- A text without the characters at its end for which `p` holds. -/
def dropEndWhile (p : Char → Bool) (r : Raw) : Raw := (r.reverse.dropWhile p).reverse

/-- A text without blanks around it. -/
def trim (r : Raw) : Raw := dropEndWhile isBlank (r.dropWhile isBlank)

/-- The integer that a text writes, blanks around it aside. -/
def int? (r : Raw) : Option Int :=
  match trim r with
  | '-' :: rest => (digits? rest).map fun n => -(n : Int)
  | '+' :: rest => (digits? rest).map fun n => (n : Int)
  | inner => (digits? inner).map fun n => (n : Int)

/-- Texts with another between them. -/
def joined (between : Raw) (texts : List Raw) : Raw := between.intercalate texts

/-- Texts with blanks between them. -/
def spaced (texts : List Raw) : Raw := joined [' '] texts

/-- A text filled up to a width on its left. -/
def padLeft (width : Nat) (r : Raw) (filler : Char) : Raw :=
  List.replicate (width - r.length) filler ++ r

/-- A text filled up to a width on its right. -/
def padRight (width : Nat) (r : Raw) (filler : Char) : Raw :=
  r ++ List.replicate (width - r.length) filler

/-- The stretches of a text that a character ends, without it; a last one without an end counts. -/
def records (ending : Char) (r : Raw) : List Raw :=
  let (current, done) := r.foldl (fun (current, done) c =>
    if c = ending then ([], current.reverse :: done) else (c :: current, done))
    (([] : Raw), ([] : List Raw))
  (if current.isEmpty then done else current.reverse :: done).reverse

/-- The lines of a text without their ends; a last line without an end counts. -/
def lines (r : Raw) : List Raw := records '\n' r

/-- The stretches of a text that a character ends, with it. -/
def endedRecords (ending : Char) (r : Raw) : List Raw :=
  let (current, done) := r.foldl (fun (current, done) c =>
    if c = ending then ([], (c :: current).reverse :: done) else (c :: current, done))
    (([] : Raw), ([] : List Raw))
  (if current.isEmpty then done else current.reverse :: done).reverse

/-- Whether a text ends in a line that has no end. -/
def lacksEnd (r : Raw) : Bool := r.getLast? != some '\n' && !r.isEmpty

/-- Lines with their ends. -/
def ofLines (lines : List Raw) : Raw := lines.flatMap (· ++ ['\n'])

/-- Whether a text holds another as a stretch of it. -/
def holds (stretch : Raw) : Raw → Bool
  | [] => stretch.isEmpty
  | c :: rest => stretch.isPrefixOf (c :: rest) || holds stretch rest

/-- Whether a text comes in front of another in byte order. -/
def precedes (a b : Raw) : Bool :=
  match a, b with
  | [], _ :: _ => true
  | _, [] => false
  | x :: xs, y :: ys => x.toNat < y.toNat || (x == y && precedes xs ys)

/-- A text between single quotes, as a shell reads it back. -/
def quoted (r : Raw) : Raw :=
  '\'' :: r.flatMap (fun c => if c = '\'' then raw "'\"'\"'" else [c]) ++ ['\'']

/-- A text with small letters in place of capital ones. -/
def lower (r : Raw) : Raw := r.map Char.toLower

/-- A text with capital letters in place of small ones. -/
def upper (r : Raw) : Raw := r.map Char.toUpper

/-- The sign, the base, and the digits of a number; a zero in front stands for eight, a zero and an x
for sixteen. -/
def prefixes (r : Raw) : Bool × Nat × Raw :=
  let (negative, body) := match r with
    | '-' :: rest => (true, rest)
    | '+' :: rest => (false, rest)
    | rest => (false, rest)
  match body with
  | '0' :: x :: d :: rest =>
      if (x = 'x' ∨ x = 'X') ∧ (digit? 16 d).isSome then (negative, 16, d :: rest)
      else (negative, 8, body)
  | '0' :: _ => (negative, 8, body)
  | _ => (negative, 10, body)

/-- The number at the front of a text, blanks before it aside, and what follows it.  Without a base
of its own the number says its base.  A text without a number at its front has none. -/
def leading? (base? : Option Nat) (r : Raw) : Option (Int × Raw) :=
  let (negative, own, body) := prefixes (r.dropWhile isBlank)
  let (base, body) := match base? with
    | none => (own, body)
    | some b => (b, if own = 16 ∧ b ≠ 16 then '0' :: 'x' :: body else body)
  let digits := body.takeWhile fun c => (digit? base c).isSome
  if digits.isEmpty then none
  else
    let n := (digits.foldl (fun acc c => base * acc + (digit? base c).getD 0) 0 : Nat)
    some (if negative then -(n : Int) else n, body.drop digits.length)

end Raw

end Bootstrap
