import Bootstrap.CommandLine.Help
import Bootstrap.CommandLine.Misuse
import Bootstrap.Path

/-!
# Reading the command line

The words are read from left to right.  An option whose value stands in the next
word waits for it; it is judged when the next option is accepted, or at the end
of its level, so a word that makes no sense is reported before a missing value
in front of it.

    program level     words up to a command
    command level     the words behind it

A command's level is read and judged to its end before the level in front of it
is.  Help and version end the reading where they stand.
-/

namespace Bootstrap.CommandLine

/-- Why the reading of a command line ends before its last word counts. -/
inductive Interruption where
  | help (topic : Topic)
  | version
  | misuse (error : Misuse)
  deriving DecidableEq, Repr

/-- A word by its dashes. -/
inductive Word where
  /-- Two dashes alone: what follows are no options. -/
  | separator
  | long (name : String) (value : Option String)
  /-- Letters behind one dash. -/
  | letters (cluster : List Char)
  | plain (text : String)
  deriving DecidableEq, Repr

/-- Splits at the first equals sign. -/
def Word.splitValue (cs : List Char) : String × Option String :=
  let name := String.ofList (cs.takeWhile (· ≠ '='))
  match cs.dropWhile (· ≠ '=') with
  | _ :: value => (name, some (String.ofList value))
  | [] => (name, none)

/-- Reads a word.  One dash alone is a plain word. -/
def Word.ofString (s : String) : Word :=
  match s.toList with
  | ['-', '-'] => .separator
  | '-' :: '-' :: rest => .long (splitValue rest).1 (splitValue rest).2
  | '-' :: c :: rest => .letters (c :: rest)
  | _ => .plain s

/-- Options that were given, in order, with their values; a switch has an empty one. -/
abbrev Occurrences : Type := List (Opt × String)

namespace Occurrences

/-- Whether an option was given. -/
def has (g : Occurrences) (o : Opt) : Bool := g.any (·.1 = o)

/-- The values of an option, in order. -/
def values (g : Occurrences) (o : Opt) : List String := (g.filter (·.1 = o)).map (·.2)

/-- The first option whose rival was given as well, and the rival. -/
def conflict? (g : Occurrences) : Option (Opt × Opt) :=
  g.findSome? fun (o, _) => (o.rival?.filter g.has).map (o, ·)

end Occurrences

/-- Whether a value suits an option. -/
def Opt.judge (o : Opt) (value : String) : Except Misuse Unit :=
  match o.form.value with
  | .switch | .text _ => .ok ()
  | .path _ => if value.isEmpty then .error (.missingValue o) else .ok ()
  | .format _ =>
      if value.isEmpty then .error (.missingValue o)
      else if (OutputFormat.ofWord? value).isSome then .ok ()
      else .error (.invalidValue value o)

/-- What was read of a level so far. -/
structure Progress where
  /-- What was accepted. -/
  given : Occurrences
  /-- An option that is not judged yet, and its value if it was read. -/
  waiting : Option (Opt × Option String)
  deriving Repr

namespace Progress

/-- Nothing was read. -/
def start : Progress := ⟨[], none⟩

/-- The option whose value is the next word. -/
def awaited? (p : Progress) : Option Opt :=
  match p.waiting with
  | some (o, none) => some o
  | _ => none

/-- Accepts an option that may be given once more. -/
def accept (p : Progress) (o : Opt) (value : String) : Except Interruption Progress :=
  if p.given.has o && !o.repeats then .error (.misuse (.repeated o))
  else
    match o.judge value with
    | .ok () => .ok { p with given := p.given ++ [(o, value)] }
    | .error e => .error (.misuse e)

/-- Judges the option that waits. -/
def settle (p : Progress) : Except Interruption Progress :=
  match p.waiting with
  | none => .ok p
  | some (o, none) => .error (.misuse (.missingValue o))
  | some (o, some value) => accept ⟨p.given, none⟩ o value

/-- Takes an option with its value. -/
def withValue (p : Progress) (o : Opt) (value : String) : Except Interruption Progress := do
  (← p.settle).accept o value

/-- Takes an option whose value stands in the next word. -/
def await (p : Progress) (o : Opt) : Except Interruption Progress := do
  return { (← p.settle) with waiting := some (o, none) }

/-- Ends a level. -/
def finish (p : Progress) : Except Interruption Occurrences := do
  let given := (← p.settle).given
  match given.conflict? with
  | some (first, second) => throw (.misuse (.conflict first second))
  | none => return given

end Progress

namespace Level

/-- Takes a switch; help and version end the reading. -/
def takeSwitch (l : Level) (p : Progress) (o : Opt) : Except Interruption Progress := do
  let p ← p.settle
  match o with
  | .help => throw (.help (.level l))
  | .version => throw .version
  | _ => p.accept o ""

/-- Reads an option by its name. -/
def readLong (l : Level) (p : Progress) (name : String) (value : Option String) :
    Except Interruption Progress :=
  match l.long? name with
  | none => .error (.misuse (.unexpected ("--" ++ name)))
  | some o =>
      match o.takesValue, value with
      | true, some v => p.withValue o v
      | true, none => p.await o
      | false, some v => .error (.misuse (.surplusValue v o))
      | false, none => l.takeSwitch p o

/-- Reads options by their letters.  The rest of the word behind an option with a value is the
value, an equals sign in front of it apart. -/
def readLetters (l : Level) (p : Progress) : List Char → Except Interruption Progress
  | [] => .ok p
  | letter :: rest =>
      match l.short? letter with
      | none => .error (.misuse (.unexpected ("-" ++ letter.toString)))
      | some o =>
          if o.takesValue then
            match rest with
            | [] => p.await o
            | '=' :: value => p.withValue o (String.ofList value)
            | value => p.withValue o (String.ofList value)
          else do readLetters l (← l.takeSwitch p o) rest

/-- Whether a word names a command here. -/
def isCommandWord (l : Level) (w : String) : Bool :=
  l == .program && (w == helpWord || (CommandName.ofWord? w).isSome)

/-- A word that has no place. -/
def surplus (l : Level) (w : String) : Misuse :=
  match l with
  | .program => .unknownCommand w
  | .command _ => .unexpected w

/-- A word behind a separator.  A command there would have been understood without the separator. -/
def surplusBehindSeparator (l : Level) (w : String) : Misuse :=
  if l.isCommandWord w then .unexpected w else l.surplus w

/-- Reads a word without dashes, which is a value or has no place. -/
def readPlain (l : Level) (p : Progress) (w : String) : Except Interruption Progress :=
  match p.awaited? with
  | some o => .ok ⟨p.given, some (o, some w)⟩
  | none => .error (.misuse (l.surplus w))

/-- Reads the words of a level, up to a command and the words behind it.  A word that names a
command is a value where one is awaited. -/
def read (l : Level) (p : Progress) :
    List String → Except Interruption (Progress × Option (String × List String))
  | [] => .ok (p, none)
  | w :: rest =>
      if p.awaited?.isNone && l.isCommandWord w then .ok (p, some (w, rest))
      else
        match Word.ofString w with
        | .separator =>
            match rest with
            | [] => .ok (p, none)
            | next :: _ => .error (.misuse (l.surplusBehindSeparator next))
        | .long name value => do read l (← l.readLong p name value) rest
        | .letters cluster => do read l (← l.readLetters p cluster) rest
        | .plain text => do read l (← l.readPlain p text) rest

end Level

/-- What is asked for behind the help word. -/
def helpRequest : List String → Interruption
  | [] => .help (.level .program)
  | w :: rest =>
      let topic := if w = helpWord then some Topic.help
        else (CommandName.ofWord? w).map fun name => .level (.command name)
      match topic, rest with
      | none, _ => .misuse (.unknownCommand w)
      | some topic, [] => .help topic
      | some _, next :: _ => .misuse (.unknownCommand next)

/-- A command line that makes sense. -/
structure Request where
  /-- The command, if one is named. -/
  command : Option CommandName
  /-- The options in front of it. -/
  outer : Occurrences
  /-- The options behind it. -/
  inner : Occurrences
  deriving Repr

namespace Request

/-- Reads the words behind the program's name. -/
def read (words : List String) : Except Interruption Request := do
  let (outer, rest?) ← Level.program.read .start words
  match rest? with
  | none => return ⟨none, ← outer.finish, []⟩
  | some (w, rest) =>
      match CommandName.ofWord? w with
      | none => throw (helpRequest rest)
      | some name =>
          let (inner, _) ← (Level.command name).read .start rest
          let inner ← inner.finish
          return ⟨some name, ← outer.finish, inner⟩

/-- Whether an option was given on either side of the command. -/
def has (r : Request) (o : Opt) : Bool := r.inner.has o || r.outer.has o

/-- The value of an option; one behind the command counts before one in front. -/
def value? (r : Request) (o : Opt) : Option String :=
  (r.inner.values o).head?.or (r.outer.values o).head?

/-- The path that an option gives. -/
def path? (r : Request) (o : Opt) : Option Path := (r.value? o).map Path.mk

/-- The output format that was asked for. -/
def format (r : Request) : OutputFormat :=
  ((r.value? .output).bind OutputFormat.ofWord?).getD .text

end Request

end Bootstrap.CommandLine
