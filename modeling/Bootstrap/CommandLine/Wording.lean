import Bootstrap.Config

/-!
# Wordings

Help texts and complaints are made of pieces, some of which are set off from the
rest.  A reader who asks for it sees the pieces in the style of their kind; for
everyone else they are plain text.
-/

namespace Bootstrap.CommandLine

/-- Why a piece of a text is set off. -/
inductive Emphasis where
  /-- It is the title of what follows. -/
  | title
  /-- It is typed as it stands. -/
  | typed
  /-- It says that something is wrong. -/
  | wrong
  /-- It is what is wrong. -/
  | refused
  deriving DecidableEq, Repr

/-- The numbers that switch a style on. -/
def Emphasis.numbers : Emphasis → List Nat
  | title => [1, 4]
  | typed => [1]
  | wrong => [1, 31]
  | refused => [33]

/-- A stretch of text. -/
inductive Piece where
  | plain (text : String)
  | marked (emphasis : Emphasis) (text : String)
  deriving DecidableEq, Repr

namespace Piece

/-- The text without its style. -/
def text : Piece → String
  | plain s | marked _ s => s

/-- The text with its style. -/
def styled : Piece → String
  | plain s => s
  | marked e s =>
      String.join (e.numbers.map fun n => "\x1b[" ++ toString n ++ "m") ++ s ++ "\x1b[0m"

end Piece

/-- A text in pieces. -/
abbrev Wording : Type := List Piece

namespace Wording

/-- The text without styles. -/
def text (w : Wording) : String := String.join (w.map Piece.text)

/-- The text, with styles if they are wanted. -/
def shown (styled : Bool) (w : Wording) : String :=
  String.join (w.map (if styled then Piece.styled else Piece.text))

/-- How many columns the text takes. -/
def width (w : Wording) : Nat := w.text.length

/-- A wording filled up with blanks. -/
def padded (width : Nat) (w : Wording) : Wording :=
  w ++ [.plain (String.ofList (List.replicate (width - w.width) ' '))]

end Wording

/-- Whether an environment asks for styles although nobody watches: it insists on them, and nothing
in it forbids them. -/
def wantsStyles (env : Environment) : Bool :=
  (env.filled? "NO_COLOR").isNone && (env.filled? "CLICOLOR_FORCE").isSome

end Bootstrap.CommandLine
