import Bootstrap.Text.Raw

/-!
# Changes of permission bits

A change is written with octal digits, which set all bits, or as clauses: who is
meant, and what is given, taken or set.  A clause that names nobody means all, but
leaves out what new files may not be.
-/

namespace Bootstrap

/-- What one operator of a clause does with bits. -/
inductive BitOperator where
  | give
  | take
  | set
  deriving DecidableEq, Repr

/-- The bits that are given, taken or set. -/
inductive BitValue where
  | bits (value : Nat)
  /-- The bits, and the bits to execute or search where somebody has them or for a directory. -/
  | orSearch (value : Nat)
  /-- What others have: theirs are the bits under a mask. -/
  | copyOf (mask : Nat)
  deriving DecidableEq, Repr

/-- A part of a change: the bits of those that are meant, or zero if nobody is named. -/
structure BitChange where
  affected : Nat
  operator : BitOperator
  value : BitValue
  deriving DecidableEq, Repr

/-- A change of permission bits. -/
inductive ModeChange where
  | absolute (mode : Nat)
  | clauses (changes : List BitChange)
  deriving DecidableEq, Repr

namespace ModeChange

/-- All permission bits. -/
def allBits : Nat := 0o7777

/-- The bits of those that a letter names. -/
def bitsOf? : Char → Option Nat
  | 'u' => some 0o4700
  | 'g' => some 0o2070
  | 'o' => some 0o1007
  | 'a' => some allBits
  | _ => none

/-- The bits that a letter stands for, for everybody. -/
def permission? : Char → Option Nat
  | 'r' => some 0o444
  | 'w' => some 0o222
  | 'x' => some 0o111
  | 's' => some 0o6000
  | 't' => some 0o1000
  | _ => none

/-- The operator that a character is. -/
def operator? : Char → Option BitOperator
  | '+' => some .give
  | '-' => some .take
  | '=' => some .set
  | _ => none

/-- The value behind an operator, and what follows it. -/
def value (text : Raw) : BitValue × Raw :=
  match text with
  | 'u' :: rest => (.copyOf 0o700, rest)
  | 'g' :: rest => (.copyOf 0o070, rest)
  | 'o' :: rest => (.copyOf 0o007, rest)
  | _ =>
      let octal := text.takeWhile fun c => (Raw.digit? 8 c).isSome
      match Raw.inBase? 8 octal with
      | some n => (.bits (n &&& allBits), text.drop octal.length)
      | none =>
          let letters := text.takeWhile fun c => (permission? c).isSome || c == 'X'
          let bits := letters.foldl (fun acc c => acc ||| (permission? c).getD 0) 0
          (if letters.contains 'X' then .orSearch bits else .bits bits, text.drop letters.length)

/-- The operators of a clause; `fuel` bounds their number. -/
def operators? (affected : Nat) : (fuel : Nat) → Raw → Option (List BitChange)
  | 0, _ => none
  | fuel + 1, text =>
      match text with
      | [] => none
      | c :: rest =>
          match operator? c with
          | none => none
          | some o =>
              let (v, rest) := value rest
              let change : BitChange := ⟨affected, o, v⟩
              if rest.isEmpty then some [change]
              else (operators? affected fuel rest).map (change :: ·)

/-- One clause. -/
def clause? (text : Raw) : Option (List BitChange) :=
  let who := text.takeWhile fun c => (bitsOf? c).isSome
  let affected := who.foldl (fun acc c => acc ||| (bitsOf? c).getD 0) 0
  operators? affected (text.length + 1) (text.drop who.length)

/-- The clauses that a text writes. -/
def clauses? (text : Raw) : Option ModeChange :=
  ((text.splitOn ',').mapM clause?).map fun changes => .clauses changes.flatten

/-- The change that a text writes. -/
def ofText? (text : Raw) : Option ModeChange :=
  match Raw.inBase? 8 text with
  | some n => if n ≤ allBits then some (.absolute n) else none
  | none => clauses? text

/-- The bits of a value, for a file that has the bits `mode`. -/
def bitsFor (isDirectory : Bool) (mode : Nat) : BitValue → Nat
  | .bits v => v
  | .orSearch v => if isDirectory || mode &&& 0o111 != 0 then v ||| 0o111 else v
  | .copyOf mask =>
      let theirs := mode &&& mask
      (if theirs &&& 0o444 != 0 then 0o444 else 0) |||
        (if theirs &&& 0o222 != 0 then 0o222 else 0) |||
        (if theirs &&& 0o111 != 0 then 0o111 else 0)

/-- The bits after a part of a change. -/
def applyPart (mask : Nat) (isDirectory : Bool) (mode : Nat) (c : BitChange) : Nat :=
  let scope := if c.affected = 0 then allBits - (allBits &&& mask) else c.affected
  let v := bitsFor isDirectory mode c.value &&& scope
  match c.operator with
  | .give => mode ||| v
  | .take => mode - (mode &&& v)
  | .set =>
      let replaced := if c.affected = 0 then allBits else c.affected
      (mode - (mode &&& replaced)) ||| v

/-- The bits after a change; `mask` is what new files may not be. -/
def apply (mask : Nat) (isDirectory : Bool) (mode : Nat) : ModeChange → Nat
  | .absolute m => m
  | .clauses changes => changes.foldl (applyPart mask isDirectory) mode

/-- The letters of the bits of one class. -/
def letters (bits : Nat) : Raw :=
  (if bits &&& 4 != 0 then ['r'] else []) ++ (if bits &&& 2 != 0 then ['w'] else []) ++
    (if bits &&& 1 != 0 then ['x'] else [])

/-- The clauses that set the bits. -/
def symbolic (mode : Nat) : Raw :=
  raw "u=" ++ letters (mode / 64) ++ raw ",g=" ++ letters (mode / 8) ++ raw ",o=" ++ letters mode

end ModeChange

end Bootstrap
