import Bootstrap.Text.Lines
import Bootstrap.Text.Quoted

/-!
# Comparing two outputs line by line

The lines of the expected and the actual text are paired by position.  A report
line is a mark of two characters and the quoted text line, so blanks and a
missing final line end can be seen, and both texts can be read back from it.
-/

namespace Bootstrap.Diff

/-- One line of a comparison. -/
inductive Line where
  /-- Both texts have this line here. -/
  | same (text : List Char)
  /-- Only the expected text has it. -/
  | missing (text : List Char)
  /-- Only the actual text has it. -/
  | extra (text : List Char)
  deriving DecidableEq, Repr

/-- Pairs two lists of lines by position. -/
def pair : (expected actual : List (List Char)) → List Line
  | [], [] => []
  | e :: expected, [] => .missing e :: pair expected []
  | [], a :: actual => .extra a :: pair [] actual
  | e :: expected, a :: actual =>
      if e = a then .same e :: pair expected actual
      else .missing e :: .extra a :: pair expected actual

/-- The comparison of two texts. -/
def compare (expected actual : List Char) : List Line :=
  pair (Text.linesOf expected) (Text.linesOf actual)

namespace Line

/-- The two characters in front of a line. -/
def mark : Line → List Char
  | .same _ => [' ', ' ']
  | .missing _ => ['-', ' ']
  | .extra _ => ['+', ' ']

/-- The text line that is compared. -/
def text : Line → List Char
  | .same t | .missing t | .extra t => t

/-- The printed form, showing the characters that `shown` allows. -/
def print (shown : Char → Bool) (line : Line) : List Char :=
  line.mark ++ Text.Quoted.encode shown line.text

/-- Reads a printed line. -/
def read? : List Char → Option Line
  | ' ' :: ' ' :: rest => (Text.Quoted.decode? rest).map .same
  | '-' :: ' ' :: rest => (Text.Quoted.decode? rest).map .missing
  | '+' :: ' ' :: rest => (Text.Quoted.decode? rest).map .extra
  | _ => none

/-- The part of the expected text on this line. -/
def inExpected : Line → List Char
  | .same t | .missing t => t
  | .extra _ => []

/-- The part of the actual text on this line. -/
def inActual : Line → List Char
  | .same t | .extra t => t
  | .missing _ => []

end Line

/-- A comparison in print, one report line per line. -/
def print (shown : Char → Bool) (lines : List Line) : List Char :=
  List.intercalate ['\n'] (lines.map (Line.print shown))

/-- Reads a printed comparison. -/
def read? (printed : List Char) : Option (List Line) :=
  if printed.isEmpty then some [] else (printed.splitOn '\n').mapM Line.read?

/-- The report on two texts. -/
def render (expected actual : String) : String :=
  String.ofList (print Text.isShown (compare expected.toList actual.toList))

end Bootstrap.Diff
