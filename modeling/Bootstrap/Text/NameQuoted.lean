import Bootstrap.Text.Raw

/-!
# Names in messages

Messages put the names of files between single quotes, always or where a shell would
read the name as something else.  A name with a single quote stands between double
quotes if it may, and characters that cannot be printed are escaped in stretches of
their own.
-/

namespace Bootstrap.NameQuoted

/-- Whether a character can be printed. -/
def isPrintable (c : Char) : Bool := 32 ≤ c.toNat && c.toNat < 127

/-- Whether a character means something to a shell wherever it stands in a word. -/
def isSpecial (c : Char) : Bool :=
  " !\"$&'()*;<=>?[\\^|".toList.contains c || c == Char.ofNat 96 || !isPrintable c

/-- Whether a name has to be quoted. -/
def needsQuotes (name : Raw) : Bool :=
  match name with
  | [] => true
  | [c] => isSpecial c || "#~\x7b\x7d".toList.contains c
  | c :: rest => c == '#' || c == '~' || (c :: rest).any isSpecial

/-- The escape of a character that cannot be printed. -/
def escape (c : Char) : Raw :=
  match c.toNat with
  | 7 => raw "\\a"
  | 8 => raw "\\b"
  | 9 => raw "\\t"
  | 10 => raw "\\n"
  | 11 => raw "\\v"
  | 12 => raw "\\f"
  | 13 => raw "\\r"
  | n => '\\' :: Raw.padLeft 3 (Nat.toDigits 8 n) '0'

/-- The inside of a name between single quotes; `escaping` says that a stretch of escapes is open. -/
def inner : (escaping : Bool) → Raw → Raw
  | _, [] => []
  | escaping, c :: rest =>
      if !isPrintable c then
        (if escaping then [] else raw "'$'") ++ escape c ++ inner true rest
      else if c = '\'' then
        (if escaping then raw "\\'" else raw "'\\''") ++ inner escaping rest
      else (if escaping then raw "''" else []) ++ c :: inner false rest

/-- Whether a name with a single quote may stand between double quotes. -/
def fitsDouble (name : Raw) : Bool :=
  name.contains '\'' && name.all fun c =>
    isPrintable c && !("\"$\\!".toList.contains c) && c != Char.ofNat 96

/-- A name between quotes. -/
def always (name : Raw) : Raw :=
  if fitsDouble name then '"' :: name ++ ['"'] else '\'' :: inner false name ++ ['\'']

/-- A name, between quotes if it has to be. -/
def asNeeded (name : Raw) : Raw := if needsQuotes name then always name else name

end Bootstrap.NameQuoted
