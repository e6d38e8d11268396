import Bootstrap.Text.Raw

/-!
# Shell scripts

A script is a tree of commands over words.  A word is a row of parts: plain text,
quoted text, and expansions that are replaced by something when the word is used.

What a quotation protects is said part by part.  Where a quotation begins or ends
the row has a mark, because a word with a quotation in it is a field even if it
comes to nothing.
-/

namespace Bootstrap.Shell

mutual

/-- A part of a word. -/
inductive Part where
  /-- Characters that stand for themselves.  Quoted ones act in no pattern and part no fields. -/
  | text (quoted : Bool) (text : Raw)
  /-- A quotation begins or ends. -/
  | mark
  /-- The value of a parameter, put to some use. -/
  | parameter (quoted : Bool) (name : Raw) (use : ParameterUse)
  /-- The output of a script. -/
  | output (quoted : Bool) (script : Option Command)
  /-- The value of an arithmetic expression. -/
  | arithmetic (quoted : Bool) (expression : List Part)

/-- What becomes of the value of a parameter.  Where there is a flag `orEmpty`, an empty value
counts as none. -/
inductive ParameterUse where
  | value
  | length
  /-- Something that the shell does not understand, which is found out when it is used. -/
  | malformed
  /-- A word in place of a missing value. -/
  | otherwise (orEmpty : Bool) (word : List Part)
  /-- A word in place of a missing value, which is assigned too. -/
  | assigned (orEmpty : Bool) (word : List Part)
  /-- A missing value is an error. -/
  | demanded (orEmpty : Bool) (word : List Part)
  /-- A word in place of a value that is there. -/
  | instead (orEmpty : Bool) (word : List Part)
  /-- The value without what a pattern matches at its front. -/
  | withoutFront (longest : Bool) (pattern : List Part)
  /-- The value without what a pattern matches at its back. -/
  | withoutBack (longest : Bool) (pattern : List Part)

/-- A redirection of a descriptor. -/
inductive Redirect where
  | fromFile (descriptor : Nat) (word : List Part)
  /-- A file to read and to write. -/
  | both (descriptor : Nat) (word : List Part)
  /-- A file from its start; whether one that is there may be overwritten in any case. -/
  | toFile (descriptor : Nat) (insists : Bool) (word : List Part)
  | toFileEnd (descriptor : Nat) (word : List Part)
  /-- It becomes a copy of another descriptor. -/
  | copyOf (descriptor source : Nat)
  | closed (descriptor : Nat)
  /-- It becomes a copy of the descriptor that a word names. -/
  | named (descriptor : Nat) (word : List Part)
  /-- It reads a text of the script, which is known by its number. -/
  | fromText (descriptor number : Nat)

/-- A command.  Where there is a `line`, it is the number of the line that it stands in. -/
inductive Command where
  | simple (line : Nat) (assignments : List (Raw × List Part)) (words : List (List Part))
      (redirects : List Redirect)
  | negated (command : Command)
  /-- The output of each command is the input of the next. -/
  | piped (commands : List Command) (background : Bool)
  | both (first second : Command)
  | either (first second : Command)
  | sequence (first second : Command)
  | subshell (line : Nat) (body : Command) (redirects : List Redirect)
  /-- A command that is not waited for. -/
  | background (line : Nat) (body : Command) (redirects : List Redirect)
  | choice (condition body : Command) (otherwise : Option Command)
  /-- A loop that ends when its condition succeeds, or else when it fails. -/
  | loop (untilTrue : Bool) (condition body : Command)
  /-- A loop over words. -/
  | each (line : Nat) (name : Raw) (words : List (List Part)) (body : Command)
  /-- The body of the first clause that has a pattern for the word. -/
  | select (line : Nat) (word : List Part) (clauses : List (List (List Part) × Option Command))
  | define (name : Raw) (body : Command)
  | redirected (line : Nat) (command : Command) (redirects : List Redirect)

end

/-- A word: its parts in order. -/
abbrev Word := List Part

namespace Word

/-- All positional parameters, each a field. -/
def positional : Word := [.mark, .parameter true ['@'] .value, .mark]

/-- Whether a character may stand in a name behind its first. -/
def isNameChar (c : Char) : Bool := c.isAlphanum || c == '_'

/-- Whether a character may begin a name. -/
def isNameStart (c : Char) : Bool := c.isAlpha || c == '_'

/-- Whether a text is a name. -/
def isName : Raw → Bool
  | [] => false
  | c :: rest => isNameStart c && rest.all isNameChar

/-- The text of a word without expansions, free of its quotations. -/
def text (w : Word) : Raw :=
  w.flatMap fun
    | .text _ t => t
    | _ => []

/-- The text of a word that is nothing but plain text. -/
def plain? : Word → Option Raw
  | [] => some []
  | .text false t :: rest => (plain? rest).map (t ++ ·)
  | _ => none

/-- The assignment that a word is, if it begins with a name and an equals sign. -/
def assignment? : Word → Option (Raw × Word)
  | .text false t :: rest =>
      let name := t.takeWhile isNameChar
      match t.drop name.length with
      | '=' :: value =>
          if isName name then
            some (name, if value.isEmpty then rest else .text false value :: rest)
          else none
      | _ => none
  | _ => none

end Word

end Bootstrap.Shell
