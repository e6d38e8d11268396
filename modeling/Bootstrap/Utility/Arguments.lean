import Bootstrap.Machine.Launch
import Bootstrap.Text.NameQuoted

/-!
# The arguments of a utility

Options are letters behind a single dash or names behind two.  They may stand among
the operands, unless the utility reads them in order; two dashes alone end them.  A
name may be cut as long as it stays clear.  What is wrong with an option is said in
the same words everywhere.
-/

namespace Bootstrap.Utility

open Machine

/-- Whether an option takes a value. -/
inductive Arity where
  | none
  | required
  | optional
  deriving DecidableEq, Repr

/-- The options that a utility knows.  A letter is followed by a colon if it takes a value, and by two
if it may; a name comes with the letter that it stands for, or with a key of its own. -/
structure Options where
  letters : String
  names : List (String × Arity × String)
  /-- Whether the first operand ends the options. -/
  inOrder : Bool

/-- Arguments that were read. -/
structure Arguments where
  /-- The options in order, each with its value. -/
  options : List (String × Raw)
  operands : List Raw

namespace Arguments

/-- Whether an option is given. -/
def has (a : Arguments) (key : String) : Bool := a.options.any (·.1 == key)

/-- Whether one of some options is given. -/
def hasAny (a : Arguments) (keys : List String) : Bool := keys.any a.has

/-- The last value of an option. -/
def value? (a : Arguments) (key : String) : Option Raw :=
  ((a.options.filter (·.1 == key)).getLast?).map (·.2)

/-- The values of an option in order. -/
def values (a : Arguments) (key : String) : List Raw :=
  (a.options.filter (·.1 == key)).map (·.2)

/-- The last of some options that is given. -/
def lastOf (a : Arguments) (keys : List String) : Option String :=
  ((a.options.filter fun o => keys.contains o.1).getLast?).map (·.1)

/-- The operands, or a single dash for the standard input if there are none. -/
def inputs (a : Arguments) : List Raw := if a.operands.isEmpty then [['-']] else a.operands

end Arguments

namespace Options

/-- How many colons follow a letter. -/
def arity? (o : Options) (c : Char) : Option Arity :=
  match o.letters.toList.dropWhile (· ≠ c) with
  | [] => Option.none
  | _ :: ':' :: ':' :: _ => some .optional
  | _ :: ':' :: _ => some .required
  | _ => if c = ':' then Option.none else some .none

/-- The names that begin with a text; one that is written out leaves no others. -/
def candidates (o : Options) (name : Raw) : List (String × Arity × String) :=
  match o.names.find? fun n => raw n.1 = name with
  | some n => [n]
  | Option.none => o.names.filter fun n => name.isPrefixOf (raw n.1)

/-- Whether several names stand for one option. -/
def agree (found : List (String × Arity × String)) : Bool :=
  match found with
  | first :: rest => rest.all fun n => n.2 == first.2
  | [] => false

/-- Reads an option by its name: its key and its value, and whether the value is the next argument. -/
def named (o : Options) (text : Raw) (next? : Option Raw) :
    Except Raw ((String × Raw) × Bool) :=
  let name := text.takeWhile (· ≠ '=')
  let value? := match text.drop name.length with
    | _ :: value => some value
    | [] => Option.none
  let found := o.candidates name
  match found with
  | [] => .error (raw "unrecognized option '--" ++ text ++ ['\''])
  | (full, arity, key) :: _ =>
      if !agree found then
        .error (raw "option '--" ++ name ++ raw "' is ambiguous; possibilities:" ++
          found.flatMap fun n => raw " '--" ++ raw n.1 ++ ['\''])
      else
        match arity, value?, next? with
        | .none, some _, _ =>
            .error (raw "option '--" ++ raw full ++ raw "' doesn't allow an argument")
        | .required, Option.none, Option.none =>
            .error (raw "option '--" ++ raw full ++ raw "' requires an argument")
        | .required, Option.none, some next => .ok ((key, next), true)
        | _, some value, _ => .ok ((key, value), false)
        | _, Option.none, _ => .ok ((key, []), false)

/-- Reads the options of one argument, letter by letter, with the argument behind it. -/
def lettered (o : Options) : Raw → (next? : Option Raw) →
    Except Raw (List (String × Raw) × Bool)
  | [], _ => .ok ([], false)
  | c :: rest, next? =>
      let key := String.ofList [c]
      match o.arity? c with
      | Option.none => .error (raw "invalid option -- '" ++ [c, '\''])
      | some .none => do
          let (more, takesNext) ← lettered o rest next?
          return ((key, []) :: more, takesNext)
      | some .optional => .ok ([(key, rest)], false)
      | some .required =>
          if !rest.isEmpty then .ok ([(key, rest)], false)
          else
            match next? with
            | some next => .ok ([(key, next)], true)
            | Option.none => .error (raw "option requires an argument -- '" ++ [c, '\''])

/-- Reads arguments; `fuel` bounds their number. -/
def readWithin (o : Options) : (fuel : Nat) → List Raw → Except Raw Arguments
  | 0, words => .ok ⟨[], words⟩
  | _ + 1, [] => .ok ⟨[], []⟩
  | fuel + 1, word :: rest =>
      match word with
      | ['-', '-'] => .ok ⟨[], rest⟩
      | '-' :: '-' :: text => do
          let (option, takesNext) ← o.named text rest.head?
          let more ← readWithin o fuel (if takesNext then rest.tail else rest)
          return ⟨option :: more.options, more.operands⟩
      | '-' :: c :: text => do
          let (options, takesNext) ← o.lettered (c :: text) rest.head?
          let more ← readWithin o fuel (if takesNext then rest.tail else rest)
          return ⟨options ++ more.options, more.operands⟩
      | _ =>
          if o.inOrder then .ok ⟨[], word :: rest⟩
          else do
            let more ← readWithin o fuel rest
            return ⟨more.options, word :: more.operands⟩

/-- Reads arguments. -/
def read (o : Options) (words : List Raw) : Except Raw Arguments :=
  o.readWithin (words.length + 1) words

end Options

/-- Points to the help of a utility and ends it. -/
def giveUp {α : Type} (status : Nat) : Step α := do
  let name := (← get).name
  Step.flush
  Step.errorLine (raw "Try '" ++ name ++ raw " --help' for more information.")
  Step.exit status

/-- Complains, points to the help, and ends the utility. -/
def misuse {α : Type} (status : Nat) (text : Raw) : Step α := do
  Step.complain text
  giveUp status

/-- Reads the arguments of a utility, which ends with a status if they are wrong. -/
def arguments (status : Nat) (o : Options) (words : List Raw) : Step Arguments := do
  match o.read words with
  | .ok a => return a
  | .error text => misuse status text

/-- Letters without values and no names. -/
def plainOptions (letters : String) : Options := ⟨letters, [], false⟩

/-- Complains that an operand is missing, and ends the utility. -/
def missingOperand {α : Type} (status : Nat) : Step α := misuse status (raw "missing operand")

/-- Complains about the first operand that is one too many, and ends the utility. -/
def extraOperand {α : Type} (status : Nat) (operand : Raw) : Step α :=
  misuse status (raw "extra operand " ++ NameQuoted.always operand)

/-- Complains that something could not be done with a file. -/
def complainOf (doing : String) (name : Raw) (e : Errno) : Step Unit :=
  Step.complain (raw doing ++ NameQuoted.always name ++ raw ": " ++ raw e.strerror)

/-- Complains about a file by its name. -/
def complainAbout (name : Raw) (e : Errno) : Step Unit :=
  Step.complain (NameQuoted.asNeeded name ++ raw ": " ++ raw e.strerror)

/-- Does something with every operand; the status is the worst. -/
def onEach (operands : List Raw) (one : Raw → Step Nat) : Step Nat :=
  operands.foldlM (fun status operand => do return max status (← one operand)) 0

/-- Reads an input by its name, in which a dash stands for the standard input. -/
def input (name : Raw) : Step (Except Errno Raw) :=
  if name = ['-'] then Step.readAll 0 else Step.readFile name

/-- Whether a failure comes from reading and not from opening. -/
def isReadFault (e : Errno) : Bool := e = .isDirectory ∨ e = .inputOutput

/-- What stands for a name in a complaint about an input that could not be opened, and about one that
could not be read. -/
structure Wording where
  opening : Raw → Raw
  reading : Raw → Raw

/-- The name alone, between quotes if it has to be. -/
def Wording.plain : Wording := ⟨NameQuoted.asNeeded, NameQuoted.asNeeded⟩

/-- A name behind some words. -/
def Wording.behind (opening reading : String) : Wording :=
  ⟨fun name => raw opening ++ NameQuoted.asNeeded name,
    fun name => raw reading ++ NameQuoted.asNeeded name⟩

/-- Complains about an input. -/
def Wording.complain (w : Wording) (name : Raw) (e : Errno) : Step Unit :=
  Step.complain ((if isReadFault e then w.reading name else w.opening name) ++ raw ": " ++
    raw e.strerror)

/-- Does something with the text of each input; the status is `failure` if one of them could not be
read. -/
def onInputs (failure : Nat) (w : Wording) (names : List Raw) (one : Raw → Raw → Step Unit) :
    Step Nat :=
  onEach names fun name => do
    match ← input name with
    | .ok text => one name text; return 0
    | .error e => w.complain name e; return failure

/-- The texts of all inputs, one behind the other, and the status. -/
def wholeInput (failure : Nat) (w : Wording) (names : List Raw) : Step (Raw × Nat) := do
  let (pieces, status) ← names.foldlM (fun (pieces, status) name => do
    match ← input name with
    | .ok text => return (text :: pieces, status)
    | .error e => w.complain name e; return (pieces, max status failure))
    (([] : List Raw), 0)
  return (pieces.reverse.flatten, status)

/-- What is left of an input; of the standard input nothing is taken yet. -/
def inputAhead (name : Raw) : Step (Except Errno Raw) :=
  if name = ['-'] then Step.ahead 0 else Step.readFile name

/-- Takes so many bytes of the standard input, and more if they cannot be given back: then it is read
in blocks. -/
def takeInput (block count : Nat) : Step Unit := do
  let isSeekable ← Step.isSeekable 0
  Step.skip 0 (if isSeekable then count else (count + block - 1) / block * block)

/-- What the letters behind a number multiply it with. -/
def multiples : List (String × Nat) :=
  let powers := "KMGTPE".toList.zipIdx.flatMap fun (c, n) =>
    let letter := String.ofList [c]
    [(letter, Nat.pow 1024 (n + 1)), (letter ++ "iB", Nat.pow 1024 (n + 1)),
      (letter ++ "B", Nat.pow 1000 (n + 1))]
  ("", 1) :: ("b", 512) :: ("k", 1024) :: ("m", 1048576) :: powers

/-- The number that a text writes, with letters behind it that multiply it. -/
def count? (text : Raw) : Option Nat := do
  let text := match text with
    | '+' :: rest => rest
    | _ => text
  let digits := text.takeWhile Char.isDigit
  let n ← Raw.digits? digits
  let m ← multiples.find? fun m => raw m.1 = text.drop digits.length
  return n * m.2

end Bootstrap.Utility
