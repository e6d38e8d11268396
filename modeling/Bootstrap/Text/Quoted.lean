import Bootstrap.Bytes
import Bootstrap.Text.Shown

/-!
# Quoted text

A quoted text stands between double quotes on one line: line ends, tabs, quotes,
backslashes and every character that is not shown as itself are written as
escapes.  `encode` writes it for any choice of the characters that are shown,
`decode?` reads it back without knowing that choice.
-/

namespace Bootstrap.Text.Quoted

/-- The escape of a character by its number. -/
def numbered (c : Char) : List Char := ['\\', 'u', '{'] ++ Nat.toDigits 16 c.toNat ++ ['}']

/-- One character of quoted text.  The escapes of a line end, a quote and a backslash come first, so
no choice of shown characters can let them through. -/
def escape (shown : Char → Bool) (c : Char) : List Char :=
  if c = '\n' then ['\\', 'n']
  else if c = '"' then ['\\', '"']
  else if c = '\\' then ['\\', '\\']
  else if shown c then [c]
  else if c = Char.ofNat 0 then ['\\', '0']
  else if c = '\t' then ['\\', 't']
  else if c = '\r' then ['\\', 'r']
  else numbered c

/-- A text in double quotes, showing the characters that `shown` allows. -/
def encode (shown : Char → Bool) (text : List Char) : List Char :=
  '"' :: text.flatMap (escape shown) ++ ['"']

/-- The number that hexadecimal digits write. -/
def hexNumber? (digits : List Char) : Option Nat :=
  if digits.isEmpty then none
  else digits.foldlM (fun acc c => (Bytes.hexValue? c).map (16 * acc + ·)) 0

/-- Reads quoted text after its opening quote, up to a closing quote that ends it. -/
def readBody? : List Char → Option (List Char)
  | [] => none
  | ['"'] => some []
  | '\\' :: 'u' :: '{' :: rest =>
      match _h : rest.dropWhile (· ≠ '}') with
      | '}' :: after => do
          let n ← hexNumber? (rest.takeWhile (· ≠ '}'))
          return Char.ofNat n :: (← readBody? after)
      | _ => none
  | '\\' :: '0' :: rest => (Char.ofNat 0 :: ·) <$> readBody? rest
  | '\\' :: 't' :: rest => ('\t' :: ·) <$> readBody? rest
  | '\\' :: 'n' :: rest => ('\n' :: ·) <$> readBody? rest
  | '\\' :: 'r' :: rest => ('\r' :: ·) <$> readBody? rest
  | '\\' :: '"' :: rest => ('"' :: ·) <$> readBody? rest
  | '\\' :: '\\' :: rest => ('\\' :: ·) <$> readBody? rest
  | c :: rest => if c = '\\' ∨ c = '"' then none else (c :: ·) <$> readBody? rest
termination_by text => text.length
decreasing_by
  all_goals first
    | (have hle := (List.dropWhile_suffix (fun c => decide (c ≠ '}')) (l := rest)).length_le
       rw [_h] at hle
       simp only [List.length_cons] at hle ⊢
       omega)
    | (simp only [List.length_cons]; omega)

/-- The text that a quoted text stands for. -/
def decode? : List Char → Option (List Char)
  | '"' :: rest => readBody? rest
  | _ => none

/-- The quoted form of a text. -/
def quote (text : String) : String := String.ofList (encode isShown text.toList)

end Bootstrap.Text.Quoted
