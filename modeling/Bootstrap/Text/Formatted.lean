import Bootstrap.Text.Decimal

/-!
# Formatted output

A format is printed with arguments in place of its directives, and again as long as
arguments are left.  Escapes stand behind a backslash, in a format and in arguments
that are printed for them.

An argument that is no number prints as the number that it begins with, and there is
a complaint.  Those who print formats word their complaints differently; the words
are in a `Dialect`.
-/

namespace Bootstrap.Formatted

/-- Output, and whether an escape said that nothing more shall follow. -/
structure Printed where
  /-- What is printed, in reverse order. -/
  latest : Raw
  stopped : Bool

/-- The value of up to `n` digits in base `2 ^ bits`, and what follows them. -/
def number (base : Nat) : (n : Nat) → (value : Nat) → Raw → Nat × Raw
  | 0, value, rest => (value, rest)
  | _ + 1, value, [] => (value, [])
  | n + 1, value, c :: rest =>
      match Raw.digit? base c with
      | some d => number base n (base * value + d) rest
      | none => (value, c :: rest)

/-- The character that a letter stands for behind a backslash. -/
def named? : Char → Option Char
  | 'a' => some (Char.ofNat 7)
  | 'b' => some (Char.ofNat 8)
  | 'e' => some (Char.ofNat 27)
  | 'f' => some (Char.ofNat 12)
  | 'n' => some '\n'
  | 'r' => some '\r'
  | 't' => some '\t'
  | 'v' => some (Char.ofNat 11)
  | '\\' => some '\\'
  | _ => none

/-- What an escape stands for, and what follows it; the text begins behind the backslash.  A
backslash in front of anything else stands for itself. -/
def escape (hexadecimal : Bool) (text : Raw) : Char × Raw :=
  match text with
  | [] => ('\\', [])
  | c :: rest =>
      if (Raw.digit? 8 c).isSome then
        let (n, rest) := number 8 3 0 text
        (Raw.byte n, rest)
      else if hexadecimal ∧ c = 'x' ∧ (rest.head?.bind (Raw.digit? 16)).isSome then
        let (n, rest) := number 16 2 0 rest
        (Raw.byte n, rest)
      else
        match named? c with
        | some d => (d, rest)
        | none => ('\\', text)

/-- Reads the escapes of an argument: octal numbers may stand behind a zero. -/
def escapes (hexadecimal : Bool) : (fuel : Nat) → Raw → (latest : Raw) → Printed
  | 0, _, latest | _, [], latest => ⟨latest, false⟩
  | fuel + 1, '\\' :: rest, latest =>
      match rest with
      | 'c' :: _ => ⟨latest, true⟩
      | '0' :: d :: _ =>
          if (Raw.digit? 8 d).isSome then
            let (c, rest) := escape hexadecimal rest.tail
            escapes hexadecimal fuel rest (c :: latest)
          else
            let (c, rest) := escape hexadecimal rest
            escapes hexadecimal fuel rest (c :: latest)
      | _ =>
          let (c, rest) := escape hexadecimal rest
          escapes hexadecimal fuel rest (c :: latest)
  | fuel + 1, c :: rest, latest => escapes hexadecimal fuel rest (c :: latest)

/-- How a directive lays its value out. -/
structure Layout where
  left : Bool
  zeros : Bool
  plus : Bool
  blank : Bool
  alternate : Bool
  width : Nat
  precision : Option Nat

/-- Fills a text up to the width of a layout. -/
def Layout.fill (l : Layout) (text : Raw) : Raw :=
  if l.left then Raw.padRight l.width text ' ' else Raw.padLeft l.width text ' '

/-- Lays out the text of a number behind its sign; zeros may fill it up. -/
def Layout.signed (l : Layout) (zeros : Bool) (sign digits : Raw) : Raw :=
  if zeros && l.zeros && !l.left then
    sign ++ Raw.padLeft (l.width - sign.length) digits '0'
  else l.fill (sign ++ digits)

/-- Lays out the digits of a whole number behind its sign. -/
def Layout.digits (l : Layout) (sign digits : Raw) : Raw :=
  let digits := if l.precision = some 0 ∧ digits = ['0'] then []
    else Raw.padLeft (l.precision.getD 1) digits '0'
  l.signed l.precision.isNone sign digits

/-- The sign of a number. -/
def Layout.sign (l : Layout) (negative : Bool) : Raw :=
  if negative then ['-'] else if l.plus then ['+'] else if l.blank then [' '] else []

/-- Lays out a floating-point number. -/
def Layout.float (l : Layout) (letter : Char) (x : Float) : Raw :=
  let mark := if letter.isUpper then 'E' else 'e'
  let cased := fun (text : Raw) => if letter.isUpper then Raw.upper text else text
  let precision := l.precision.getD 6
  match Decimal.kindOf x with
  | .notNumber => l.fill (l.sign false ++ cased (raw "nan"))
  | .infinite negative => l.fill (l.sign negative ++ cased (raw "inf"))
  | .finite negative m =>
      let digits := match letter.toLower with
        | 'f' => Decimal.fixed m precision l.alternate
        | 'e' => Decimal.scientific m precision l.alternate mark
        | _ => Decimal.general m precision l.alternate mark
      l.signed true (l.sign negative) digits

/-- What is wrong with an argument. -/
inductive Complaint where
  | noNumber (argument : Raw)
  | rest (argument rest : Raw)
  | range (argument : Raw)
  deriving DecidableEq, Repr

/-- The value of an argument, and what is wrong with it.  The number of a character stands behind a
quote. -/
def wholeOf (signed : Bool) (argument : Raw) : Int × Option Complaint :=
  match argument with
  | [] => (0, none)
  | '\'' :: c :: _ | '"' :: c :: _ => (c.toNat, none)
  | ['\''] | ['"'] => (0, none)
  | _ =>
      let (least, greatest) := if signed then ((-9223372036854775808 : Int), 9223372036854775807)
        else (-18446744073709551615, 18446744073709551615)
      match Raw.leading? none argument with
      | none => (0, some (.noNumber argument))
      | some (n, rest) =>
          let clipped := if n < least then (if signed then least else greatest)
            else if greatest < n then greatest else n
          let complaint := if !rest.isEmpty then some (Complaint.rest argument rest)
            else if clipped ≠ n then some (.range argument) else none
          (clipped, complaint)

/-- The floating-point value of an argument, and what is wrong with it. -/
def floatOf (argument : Raw) : Float × Option Complaint :=
  match argument with
  | [] => (0, none)
  | '\'' :: c :: _ | '"' :: c :: _ => (Float.ofNat c.toNat, none)
  | _ =>
      match Decimal.leading? argument with
      | none => (0, some (.noNumber argument))
      | some (x, rest) => (x, if rest.isEmpty then none else some (.rest argument rest))

/-- How those who print formats differ. -/
structure Dialect where
  /-- Whether hexadecimal escapes are understood. -/
  hexadecimal : Bool
  /-- Whether an argument is quoted for a shell by a directive of its own. -/
  quotes : Bool
  /-- Whether an empty argument prints a zero byte as a character. -/
  zeroByte : Bool
  complaint : Complaint → Raw
  /-- A directive that is not understood. -/
  invalid : Raw → Raw
  /-- A format that ends in a directive. -/
  unfinished : Raw

/-- A directive of a format: its layout, its letter, how it is written, and what follows it.  Widths
may be taken from arguments, which are used up. -/
structure Directive where
  layout : Layout
  letter : Option Char
  text : Raw
  rest : Raw
  arguments : List Raw
  complaints : List Complaint

/-- A width or precision: digits, or a star that takes an argument. -/
def sizeOf (text : Raw) (arguments : List Raw) : Int × Raw × List Raw × List Complaint :=
  match text with
  | '*' :: rest =>
      let (n, complaint) := wholeOf true (arguments.headD [])
      (n, rest, arguments.tail, complaint.toList)
  | _ =>
      let digits := text.takeWhile Char.isDigit
      ((Raw.digits? digits).getD 0, text.drop digits.length, arguments, [])

/-- Reads a directive behind its percent sign. -/
def directive (text : Raw) (arguments : List Raw) : Directive :=
  let flags := text.takeWhile fun c => "-0+ #".toList.contains c
  let (width, rest, arguments, wrong) := sizeOf (text.drop flags.length) arguments
  let (precision, rest, arguments, more) := match rest with
    | '.' :: rest =>
        let (n, rest, arguments, wrong) := sizeOf rest arguments
        (if n < 0 then none else some n.toNat, rest, arguments, wrong)
    | _ => (none, rest, arguments, [])
  let layout : Layout := ⟨flags.contains '-' || width < 0, flags.contains '0', flags.contains '+',
    flags.contains ' ', flags.contains '#', width.natAbs, precision⟩
  ⟨layout, rest.head?, '%' :: text.take (text.length - rest.length + 1), rest.tail, arguments,
    wrong ++ more⟩

/-- What one directive prints for an argument: the text, what is wrong with the argument, and whether
printing stops. -/
def convert? (d : Dialect) (l : Layout) (letter : Char) (argument? : Option Raw) :
    Option (Raw × Option Complaint × Bool) :=
  let argument := argument?.getD []
  let cut := fun (text : Raw) => match l.precision with
    | some n => text.take n
    | none => text
  let inBase := fun (base : Nat) (mark : Raw) (upper : Bool) =>
    let (n, wrong) := wholeOf false argument
    let value := if n < 0 then (18446744073709551616 + n).toNat else n.toNat
    let digits := Nat.toDigits base value
    let digits := if upper then Raw.upper digits else digits
    let (mark, digits) := if !l.alternate ∨ value = 0 then ([], digits)
      else if base = 8 then ([], if (l.precision.getD 1) ≤ digits.length then '0' :: digits
        else digits)
      else (mark, digits)
    some (l.digits mark digits, wrong, false)
  match letter with
  | 's' => some (l.fill (cut argument), none, false)
  | 'b' =>
      let printed := escapes d.hexadecimal argument.length argument []
      some (l.fill (cut printed.latest.reverse), none, printed.stopped)
  | 'c' =>
      let text := match argument? with
        | some (c :: _) => [c]
        | _ => if d.zeroByte then [Raw.byte 0] else []
      some (l.fill text, none, false)
  | 'd' | 'i' =>
      let (n, wrong) := wholeOf true argument
      some (l.digits (l.sign (n < 0)) (Raw.ofNat n.natAbs), wrong, false)
  | 'u' => inBase 10 [] false
  | 'o' => inBase 8 [] false
  | 'x' => inBase 16 ['0', 'x'] false
  | 'X' => inBase 16 ['0', 'X'] true
  | 'q' =>
      if d.quotes then
        some (l.fill (if !argument.isEmpty && argument.all (fun c => c.isAlphanum ||
          "_-./:,@%+=".toList.contains c) then argument else Raw.quoted argument), none, false)
      else none
  | _ =>
      if "eEfFgG".toList.contains letter then
        let (x, wrong) := floatOf argument
        some (l.float letter x, wrong, false)
      else none

/-- What a use of a format leaves. -/
structure Use where
  /-- What is printed, in reverse order. -/
  latest : Raw
  arguments : List Raw
  /-- Whether a directive asked for an argument. -/
  asked : Bool
  complaints : List Complaint
  /-- Why printing cannot go on. -/
  fault : Option Raw
  stopped : Bool

/-- Prints a format once. -/
def useOnce (d : Dialect) : (fuel : Nat) → Raw → Use → Use
  | 0, _, u | _, [], u => u
  | fuel + 1, '%' :: '%' :: rest, u => useOnce d fuel rest { u with latest := '%' :: u.latest }
  | fuel + 1, '%' :: rest, u =>
      let r := directive rest u.arguments
      match r.letter with
      | none => { u with fault := some d.unfinished, stopped := true }
      | some letter =>
          match convert? d r.layout letter r.arguments.head? with
          | none => { u with fault := some (d.invalid r.text), stopped := true }
          | some (text, wrong, stop) =>
              let u : Use := { u with
                latest := text.reverse ++ u.latest
                arguments := r.arguments.tail
                asked := true
                complaints := u.complaints ++ r.complaints ++ wrong.toList
                stopped := stop }
              if stop then u else useOnce d fuel r.rest u
  | fuel + 1, '\\' :: rest, u =>
      if rest.head? = some 'c' ∧ d.hexadecimal then { u with stopped := true }
      else
        let (c, rest) := escape d.hexadecimal rest
        useOnce d fuel rest { u with latest := c :: u.latest }
  | fuel + 1, c :: rest, u => useOnce d fuel rest { u with latest := c :: u.latest }

/-- Prints a format as long as arguments are left. -/
def useAgain (d : Dialect) (format : Raw) : (fuel : Nat) → Use → Use
  | 0, u => u
  | fuel + 1, u =>
      let u := useOnce d format.length format u
      if u.stopped || !u.asked || u.arguments.isEmpty then u
      else useAgain d format fuel u

/-- Prints a format with arguments. -/
def print (d : Dialect) (format : Raw) (arguments : List Raw) : Use :=
  useAgain d format (arguments.length + 1) ⟨[], arguments, false, [], none, false⟩

/-- What was printed. -/
def Use.text (u : Use) : Raw := u.latest.reverse

end Bootstrap.Formatted
