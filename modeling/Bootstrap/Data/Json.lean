import Bootstrap.Bytes

/-!
# JSON values in print

Reports for other programs are JSON.  A value is printed over several lines, two
blanks for each level; an object keeps its members in the order in which they are
given.  Only quotes, backslashes and control characters are escaped.
-/

namespace Bootstrap.Data

/-- A JSON value. -/
inductive Json where
  | null
  | bool (b : Bool)
  | number (n : Nat)
  | string (s : String)
  | array (elements : List Json)
  | object (members : List (String × Json))
  deriving Repr

namespace Json

/-- An optional value; nothing is null. -/
def optional {α : Type} (f : α → Json) : Option α → Json
  | some a => f a
  | none => null

/-- A list of values. -/
def list {α : Type} (f : α → Json) (xs : List α) : Json := array (xs.map f)

/-- One character of a string. -/
def escape (c : Char) : List Char :=
  if c = '"' then ['\\', '"']
  else if c = '\\' then ['\\', '\\']
  else if c = '\n' then ['\\', 'n']
  else if c = '\r' then ['\\', 'r']
  else if c = '\t' then ['\\', 't']
  else if c.toNat = 8 then ['\\', 'b']
  else if c.toNat = 12 then ['\\', 'f']
  else if c.toNat < 32 then
    ['\\', 'u', '0', '0', Bytes.hexDigit (c.toNat / 16), Bytes.hexDigit (c.toNat % 16)]
  else [c]

/-- A string between quotes. -/
def quoted (s : String) : String :=
  String.ofList ('"' :: s.toList.flatMap escape ++ ['"'])

/-- A line end and the blanks of a level. -/
def newLine (level : Nat) : String := "\n" ++ String.ofList (List.replicate (2 * level) ' ')

/-- Items in brackets, each on a line of its own. -/
def bracketed (level : Nat) (opening closing : String) (items : List String) : String :=
  if items.isEmpty then opening ++ closing
  else opening ++ newLine (level + 1) ++ (("," ++ newLine (level + 1)).intercalate items) ++
    newLine level ++ closing

mutual

/-- The printed form of a value at a level. -/
def printAt (level : Nat) : Json → String
  | null => "null"
  | bool b => if b then "true" else "false"
  | number n => toString n
  | string s => quoted s
  | array elements => bracketed level "[" "]" (printElements (level + 1) elements)
  | object members => bracketed level "\x7b" "\x7d" (printMembers (level + 1) members)

/-- The printed forms of the elements of an array. -/
def printElements (level : Nat) : List Json → List String
  | [] => []
  | element :: rest => printAt level element :: printElements level rest

/-- The printed forms of the members of an object. -/
def printMembers (level : Nat) : List (String × Json) → List String
  | [] => []
  | (name, value) :: rest =>
      (quoted name ++ ": " ++ printAt level value) :: printMembers level rest

end

/-- The printed form of a value. -/
def print (j : Json) : String := printAt 0 j

end Json

end Bootstrap.Data
