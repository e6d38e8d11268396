import Bootstrap.Shell.Script

/-!
# The text of a shell script

A script is read character by character.  Where a word is an alias, the text that it
stands for is read before the rest of the script, so what is left is a stack of
texts with the script at the bottom.

The reader keeps what it has to remember between tokens: the token it has looked
ahead at, what may come next, and the here-documents whose texts are still to come.
-/

namespace Bootstrap.Shell

/-- A reserved word. -/
inductive Reserved where
  | not
  | «case»
  | «do»
  | done
  | elif
  | «else»
  | esac
  | fi
  | «for»
  | «if»
  | «in»
  | «then»
  | «until»
  | «while»
  | opens
  | closes
  deriving DecidableEq, Repr

namespace Reserved

/-- All of them. -/
def all : List Reserved :=
  [not, «case», «do», done, elif, «else», esac, fi, «for», «if», «in», «then», «until», «while»,
    opens, closes]

/-- How a reserved word is written. -/
def word : Reserved → String
  | not => "!"
  | «case» => "case"
  | «do» => "do"
  | done => "done"
  | elif => "elif"
  | «else» => "else"
  | esac => "esac"
  | fi => "fi"
  | «for» => "for"
  | «if» => "if"
  | «in» => "in"
  | «then» => "then"
  | «until» => "until"
  | «while» => "while"
  | opens => "\x7b"
  | closes => "\x7d"

/-- The reserved word that a text is. -/
def ofText? (text : Raw) : Option Reserved := all.find? fun r => raw r.word = text

end Reserved

/-- A token. -/
inductive Token where
  | endOfFile
  | newline
  | semicolon
  | ampersand
  | both
  | either
  | pipe
  | opens
  | closes
  | endOfClause
  | word
  | redirection
  | reserved (r : Reserved)
  deriving DecidableEq, Repr

namespace Token

/-- How messages name a token. -/
def name : Token → String
  | endOfFile => "end of file"
  | newline => "newline"
  | semicolon => "\";\""
  | ampersand => "\"&\""
  | both => "\"&&\""
  | either => "\"||\""
  | pipe => "\"|\""
  | opens => "\"(\""
  | closes => "\")\""
  | endOfClause => "\";;\""
  | word => "word"
  | redirection => "redirection"
  | reserved r => "\"" ++ r.word ++ "\""

/-- Whether a list of commands may end in front of the token. -/
def endsList : Token → Bool
  | endOfFile | closes | endOfClause => true
  | reserved .«do» | reserved .done | reserved .elif | reserved .«else» | reserved .esac
  | reserved .fi | reserved .«then» | reserved .closes => true
  | _ => false

end Token

/-- The operator of a redirection. -/
inductive RedirectOperator where
  | fromFile
  | both
  | toFile
  | toFileAtAnyRate
  | toFileEnd
  | copyIn
  | copyOut
  /-- The text that follows, and whether tabs at the beginning of its lines are left out. -/
  | fromText (strips : Bool)
  deriving DecidableEq, Repr

/-- A token with what it says. -/
structure Lexeme where
  token : Token
  /-- The word, if it is one. -/
  word : Word
  /-- Whether any of it was quoted. -/
  quoted : Bool
  descriptor : Nat
  operator : RedirectOperator

/-- What is looked for in the next token. -/
structure Outlook where
  /-- Whether empty lines are skipped. -/
  lines : Bool
  reserved : Bool
  aliases : Bool
  /-- Whether the word is the delimiter of a text, in which nothing is expanded. -/
  delimiter : Bool
  deriving DecidableEq

namespace Outlook

/-- Any token as it stands. -/
def plain : Outlook := ⟨false, false, false, false⟩

/-- A command. -/
def command : Outlook := ⟨false, true, true, false⟩

/-- A command behind empty lines. -/
def commandBelow : Outlook := ⟨true, true, true, false⟩

/-- What either of two outlooks looks for. -/
def or (a b : Outlook) : Outlook :=
  ⟨a.lines || b.lines, a.reserved || b.reserved, a.aliases || b.aliases,
    a.delimiter || b.delimiter⟩

end Outlook

/-- A text that stands for an alias. -/
structure Inset where
  rest : Raw
  /-- The alias. -/
  name : Raw
  /-- Whether the text ends in a blank, so that the word behind it may be an alias too. -/
  endsBlank : Bool

/-- A text of the script that a redirection waits for. -/
structure Awaited where
  number : Nat
  delimiter : Raw
  strips : Bool
  /-- Whether its expansions are left alone. -/
  literal : Bool

/-- Where a reader stands. -/
structure Source where
  insets : List Inset
  rest : Raw
  line : Nat
  /-- The latest token. -/
  latest : Lexeme
  /-- Whether the latest token is to be read once more. -/
  again : Bool
  outlook : Outlook
  awaited : List Awaited
  /-- The texts of redirections so far. -/
  texts : Array Word
  aliases : List (Raw × Raw)

/-- A token that says nothing. -/
def Lexeme.ofToken (t : Token) : Lexeme := ⟨t, [], false, 0, .fromFile⟩

/-- The beginning of a text. -/
def Source.ofText (text : Raw) : Source :=
  ⟨[], text.filter (·.toNat != 0), 1, .ofToken .newline, false, .plain, [], #[], []⟩

/-- Why a script cannot be read. -/
structure ReadFault where
  line : Nat
  message : Raw

/-- A reading step. -/
abbrev ReadStep := StateT Source (Except ReadFault)

namespace Reader

/-- The backquote. -/
def backquote : Char := Char.ofNat 96

/-- Fails with a text. -/
def fail {α : Type} (message : Raw) : ReadStep α := do throw ⟨(← get).line, message⟩

/-- Fails at the latest token. -/
def unexpected {α : Type} : ReadStep α := do
  fail (raw ((← get).latest.token.name ++ " unexpected"))

/-- Fails at the latest token where another should stand. -/
def unexpectedFor {α : Type} (t : Token) : ReadStep α := do
  fail (raw ((← get).latest.token.name ++ " unexpected (expecting " ++ t.name ++ ")"))

/-- The next character.  An alias that is used up is left first. -/
def ahead? : ReadStep (Option Char) := do
  let s ← get
  let left := s.insets.dropWhile (·.rest.isEmpty)
  let used := s.insets.take (s.insets.length - left.length)
  set { s with
    insets := left
    outlook := if used.any Inset.endsBlank then { s.outlook with aliases := true }
      else s.outlook }
  match left with
  | top :: _ => return top.rest.head?
  | [] => return s.rest.head?

/-- Goes on behind the next character. -/
def advance : ReadStep Unit := do
  let c? ← ahead?
  modify fun s =>
    let s := if c? = some '\n' then { s with line := s.line + 1 } else s
    match s.insets with
    | top :: more => { s with insets := { top with rest := top.rest.drop 1 } :: more }
    | [] => { s with rest := s.rest.drop 1 }

/-- Takes the next character. -/
def take? : ReadStep (Option Char) := do
  let c? ← ahead?
  if c?.isSome then advance
  return c?

/-- Gives a character back. -/
def putBack : Option Char → ReadStep Unit
  | none => pure ()
  | some c => modify fun s =>
      let s := if c = '\n' then { s with line := s.line - 1 } else s
      match s.insets with
      | top :: more => { s with insets := { top with rest := c :: top.rest } :: more }
      | [] => { s with rest := c :: s.rest }

/-- Takes the next character; a line that ends in a backslash goes on with the next. -/
def joined? : (fuel : Nat) → ReadStep (Option Char)
  | 0 => take?
  | fuel + 1 => do
      match ← take? with
      | some '\\' =>
          match ← ahead? with
          | some '\n' => advance; joined? fuel
          | _ => return some '\\'
      | c? => return c?

/-- Skips the rest of a line. -/
def skipComment : (fuel : Nat) → ReadStep Unit
  | 0 => pure ()
  | fuel + 1 => do
      match ← ahead? with
      | none | some '\n' => pure ()
      | some _ => advance; skipComment fuel

/-- Takes characters as long as `p` holds. -/
def takeWhile (p : Char → Bool) : (fuel : Nat) → ReadStep Raw
  | 0 => return []
  | fuel + 1 => do
      match ← joined? fuel with
      | some c =>
          if p c then return c :: (← takeWhile p fuel)
          else putBack (some c); return []
      | none => return []

/-- Sets what is looked for in the next token. -/
def lookFor (o : Outlook) : ReadStep Unit := modify fun s => { s with outlook := o }

/-- Has the latest token read once more. -/
def readAgain : ReadStep Unit := modify fun s => { s with again := true }

/-- Adds a character to parts given in reverse order; the texts among them are in reverse order as
well. -/
def addChar (quoted : Bool) (c : Char) : List Part → List Part
  | .text q t :: rest => if q = quoted then .text q (c :: t) :: rest
      else .text quoted [c] :: .text q t :: rest
  | parts => .text quoted [c] :: parts

/-- The word of parts given in reverse order. -/
def wordOf (parts : List Part) : Word :=
  parts.foldl (fun word p =>
    match p with
    | .text q t => .text q t.reverse :: word
    | p => p :: word) []

/-- Runs a step on another text and comes back to the present one. -/
def within {α : Type} (text : Raw) (step : ReadStep α) : ReadStep α := do
  let s ← get
  set { s with insets := [], rest := text, line := 1, again := false, awaited := [] }
  let a ← step
  modify fun inner =>
    { inner with insets := s.insets, rest := s.rest, line := s.line, again := false,
                 awaited := s.awaited }
  return a

end Reader

end Bootstrap.Shell
