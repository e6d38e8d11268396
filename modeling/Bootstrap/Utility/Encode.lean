import Bootstrap.Utility.Arguments

/-!
# Utilities that show bytes as text

`od` prints bytes as numbers or characters, with offsets; `base64` writes any bytes with
sixty-four characters, and reads them back.
-/

namespace Bootstrap.Utility

open Machine

/-! ## Dumps -/

/-- How the numbers of a dump are written. -/
inductive DumpStyle where
  | octal
  | signed
  | unsigned
  | hexadecimal
  | characters
  | names
  deriving DecidableEq, Repr

/-- A kind of dump: the style, how many bytes make a number, and whether the characters follow. -/
structure DumpKind where
  style : DumpStyle
  size : Nat
  showsText : Bool

namespace DumpKind

/-- How wide a number is printed, without the blank in front of it. -/
def width (k : DumpKind) : Nat :=
  match k.style, k.size with
  | .octal, n => (8 * n + 2) / 3
  | .hexadecimal, n => 2 * n
  | .unsigned, n => (Raw.ofNat (Nat.pow 256 n - 1)).length
  | .signed, n => (Raw.ofNat (Nat.pow 256 n / 2)).length + 1
  | .characters, _ | .names, _ => 3

/-- The names of the characters that cannot be printed. -/
def controlNames : List String :=
  ["nul", "soh", "stx", "etx", "eot", "enq", "ack", "bel", "bs", "ht", "nl", "vt", "ff", "cr", "so",
    "si", "dle", "dc1", "dc2", "dc3", "dc4", "nak", "syn", "etb", "can", "em", "sub", "esc", "fs",
    "gs", "rs", "us", "sp"]

/-- A byte as a character or an escape. -/
def characterText (n : Nat) : Raw :=
  match n with
  | 0 => raw "\\0"
  | 7 => raw "\\a"
  | 8 => raw "\\b"
  | 9 => raw "\\t"
  | 10 => raw "\\n"
  | 11 => raw "\\v"
  | 12 => raw "\\f"
  | 13 => raw "\\r"
  | n =>
      if NameQuoted.isPrintable (Char.ofNat n) then [Char.ofNat n]
      else Raw.padLeft 3 (Nat.toDigits 8 n) '0'

/-- A number in a style. -/
def text (k : DumpKind) (n : Nat) : Raw :=
  match k.style with
  | .octal => Raw.padLeft k.width (Nat.toDigits 8 n) '0'
  | .hexadecimal => Raw.padLeft k.width (Nat.toDigits 16 n) '0'
  | .unsigned => Raw.ofNat n
  | .signed => Raw.ofInt (if 2 * n < Nat.pow 256 k.size then (n : Int) else (n : Int) - Nat.pow 256 k.size)
  | .characters => characterText n
  | .names =>
      match controlNames[n % 128]? with
      | some name => raw name
      | none => if n % 128 = 127 then raw "del" else [Char.ofNat (n % 128)]

/-- The size that follows the letter of a style, and what follows it. -/
def size? (rest : Raw) : Nat × Raw :=
  match rest with
  | 'C' :: rest => (1, rest)
  | 'S' :: rest => (2, rest)
  | 'I' :: rest => (4, rest)
  | 'L' :: rest => (8, rest)
  | _ =>
      let digits := rest.takeWhile Char.isDigit
      ((Raw.digits? digits).getD 4, rest.drop digits.length)

/-- The kinds that a text writes. -/
def listOfText : (fuel : Nat) → Raw → Except Char (List DumpKind)
  | 0, _ | _, [] => .ok []
  | fuel + 1, c :: rest => do
      let style ← match c with
        | 'o' => .ok DumpStyle.octal
        | 'd' => .ok .signed
        | 'u' => .ok .unsigned
        | 'x' => .ok .hexadecimal
        | 'c' => .ok .characters
        | 'a' => .ok .names
        | c => .error c
      let (size, rest) := if style = .characters ∨ style = .names then (1, rest) else size? rest
      let (showsText, rest) := match rest with
        | 'z' :: rest => (true, rest)
        | _ => (false, rest)
      return ⟨style, size, showsText⟩ :: (← listOfText fuel rest)

/-- The number that bytes write, the least significant first; missing ones are zero. -/
def numberOf (bytes : Raw) : Nat := bytes.foldr (fun c n => c.toNat + 256 * n) 0

/-- The numbers of a row, each behind blanks that bring the row to a common width. -/
def row (k : DumpKind) (perRow common : Nat) (bytes : Raw) : Raw :=
  let fields := perRow / k.size
  let pad := common - fields * (k.width + 1)
  let shown := (List.range ((bytes.length + k.size - 1) / k.size)).flatMap fun i =>
    let left := fields - i
    let extra := pad * left / fields - pad * (left - 1) / fields
    Raw.padLeft (k.width + 1 + extra) (k.text (numberOf ((bytes.drop (i * k.size)).take k.size))) ' '
  if k.showsText then
    Raw.padRight common shown ' ' ++ raw "  >" ++
      bytes.map (fun c => if NameQuoted.isPrintable c then c else '.') ++ ['<']
  else shown

end DumpKind

/-- How offsets are written. -/
def offsetText (radix : Char) (n : Nat) : Raw :=
  match radix with
  | 'd' => Raw.padLeft 7 (Raw.ofNat n) '0'
  | 'x' => Raw.padLeft 6 (Nat.toDigits 16 n) '0'
  | 'n' => []
  | _ => Raw.padLeft 7 (Nat.toDigits 8 n) '0'

/-- The rows of a dump; `last` is the row before, and `fuel` bounds their number. -/
def dumpRows (perRow : Nat) (repeats : Bool) (show' : Nat → Raw → Raw) :
    (fuel : Nat) → (offset : Nat) → (last : Option Raw) → (starred : Bool) → Raw → List Raw
  | 0, _, _, _, _ => []
  | fuel + 1, offset, last, starred, text =>
      if text.isEmpty then []
      else
        let bytes := text.take perRow
        let rest := text.drop perRow
        let isSame := !repeats && last == some bytes && bytes.length == perRow
        let here := if isSame then (if starred then [] else [raw "*\n"]) else [show' offset bytes]
        here ++ dumpRows perRow repeats show' fuel (offset + bytes.length) (some bytes) isSame rest

/-- The options of `od`. -/
def dumpOptions : Options :=
  ⟨"A:abcdDfFhHiIj:lLN:oOsS:t:vw::xX",
    [("address-radix", .required, "A"), ("skip-bytes", .required, "j"),
      ("read-bytes", .required, "N"), ("format", .required, "t"),
      ("output-duplicates", .none, "v"), ("width", .optional, "w")], false⟩

/-- The kinds that a letter stands for. -/
def dumpShorthand : List (String × String) :=
  [("a", "a"), ("b", "o1"), ("c", "c"), ("d", "u2"), ("i", "d4"), ("l", "d8"), ("o", "o2"),
    ("s", "d2"), ("x", "x2"), ("B", "o2"), ("D", "u4"), ("h", "x2"), ("H", "x4"), ("X", "x4"),
    ("O", "o4"), ("I", "d8"), ("L", "d8")]

/-- Prints bytes as numbers or characters. -/
def od (words : List Raw) : Step Nat := do
  let a ← arguments 1 dumpOptions words
  let radix := ((a.value? "A").getD ['o']).headD 'o'
  if !"doxn".toList.contains radix then
    Step.complain (raw "invalid output address radix '" ++ [radix] ++
      raw "'; it must be one character from [doxn]")
    return 1
  else
    let formats := a.options.filterMap fun (key, value) =>
      if key == "t" then some value else (dumpShorthand.lookup key).map raw
    let formats := if formats.isEmpty then [raw "o2"] else formats
    let kinds ← formats.mapM fun format => do
      match DumpKind.listOfText (format.length + 1) format with
      | .ok kinds => return kinds
      | .error c =>
          Step.complain (raw "invalid character '" ++ [c] ++ raw "' in type string " ++
            NameQuoted.always format)
          Step.exit 1
    let kinds := kinds.flatten
    let isThere ← a.inputs.mapM fun name => do
      if name = ['-'] then return true else return (← Step.stat name).toOption.isSome
    let (whole, status) ← wholeInput 1 .plain a.inputs
    if !isThere.any (·) then Step.exit status
    let skipped := ((a.value? "j").bind count?).getD 0
    if whole.length < skipped then
      Step.complain (raw "cannot skip past end of combined input")
      return 1
    else
      let text := whole.drop skipped
      let text := match (a.value? "N").bind count? with
        | some n => text.take n
        | none => text
      let perRow := match a.value? "w" with
        | some value => ((Raw.digits? value).getD 32)
        | none => 16
      let common := kinds.foldl (fun n k => max n (perRow / k.size * (k.width + 1))) 0
      let show' := fun (offset : Nat) (bytes : Raw) =>
        let address := offsetText radix offset
        (kinds.zipIdx.flatMap fun (k, i) =>
          (if i = 0 then address else List.replicate address.length ' ') ++
            k.row perRow common bytes ++ ['\n'])
      let rows := dumpRows perRow (a.has "v") show' (text.length + 1) skipped none false text
      Step.printLater rows.flatten
      if radix ≠ 'n' then Step.printLine (offsetText radix (skipped + text.length))
      return status

/-! ## Sixty-four characters -/

/-- The characters by their values. -/
def digits64 : Raw := raw "ABCDEFGHIJKLMNOPQRSTUVWXYZabcdefghijklmnopqrstuvwxyz0123456789+/"

/-- The text of some bytes, three by three. -/
def encode64 : Raw → Raw
  | a :: b :: c :: rest =>
      let n := (a.toNat * 256 + b.toNat) * 256 + c.toNat
      [n / 262144, n / 4096 % 64, n / 64 % 64, n % 64].map (digits64.getD · '=') ++ encode64 rest
  | [a, b] =>
      let n := (a.toNat * 256 + b.toNat) * 256
      [n / 262144, n / 4096 % 64, n / 64 % 64].map (digits64.getD · '=') ++ ['=']
  | [a] =>
      let n := a.toNat * 65536
      [n / 262144, n / 4096 % 64].map (digits64.getD · '=') ++ raw "=="
  | [] => []

/-- The bytes of a text without line ends, as far as it is right, and whether it is. -/
def decode64 : Raw → Raw × Bool
  | a :: b :: c :: d :: rest =>
      match digits64.findIdx? (· == a), digits64.findIdx? (· == b), digits64.findIdx? (· == c),
          digits64.findIdx? (· == d) with
      | some p, some q, some r, some s =>
          let n := ((p * 64 + q) * 64 + r) * 64 + s
          let (more, right) := decode64 rest
          (Raw.byte (n / 65536) :: Raw.byte (n / 256) :: Raw.byte n :: more, right)
      | some p, some q, some r, none =>
          let n := ((p * 64 + q) * 64 + r) * 64
          if d = '=' then
            let (more, right) := decode64 rest
            (Raw.byte (n / 65536) :: Raw.byte (n / 256) :: more, right)
          else ([Raw.byte (n / 65536), Raw.byte (n / 256)], false)
      | some p, some q, none, _ =>
          let n := (p * 64 + q) * 4096
          if c = '=' ∧ d = '=' then
            let (more, right) := decode64 rest
            (Raw.byte (n / 65536) :: more, right)
          else ([Raw.byte (n / 65536)], false)
      | _, _, _, _ => ([], false)
  | [] => ([], true)
  | _ => ([], false)

/-- Writes its input with sixty-four characters, or reads such a text. -/
def base64 (words : List Raw) : Step Nat := do
  let a ← arguments 1 ⟨"diw:",
    [("decode", .none, "d"), ("ignore-garbage", .none, "i"), ("wrap", .required, "w")], false⟩ words
  match a.operands with
  | _ :: extra :: _ => extraOperand 1 extra
  | operands =>
      let name := operands.headD ['-']
      match ← input name with
      | .error e =>
          if isReadFault e then Step.complain (raw "read error: " ++ raw e.strerror)
          else complainAbout name e
          return 1
      | .ok text =>
          if a.has "d" then
            let kept := text.filter fun c =>
              c ≠ '\n' ∧ (!a.has "i" ∨ digits64.contains c ∨ c = '=')
            let (bytes, right) := decode64 kept
            Step.printLater bytes
            if !right then Step.complain (raw "invalid input")
            return if right then 0 else 1
          else
            let width := ((a.value? "w").bind Raw.digits?).getD 76
            let encoded := encode64 text
            if width = 0 then Step.printLater encoded
            else Step.printLater (Raw.ofLines (wrapped width (encoded.length + 1) encoded))
            return 0
where
  /-- Pieces of a width; `fuel` bounds their number. -/
  wrapped (width : Nat) : (fuel : Nat) → Raw → List Raw
    | 0, _ | _, [] => []
    | fuel + 1, text => text.take width :: wrapped width fuel (text.drop width)

end Bootstrap.Utility
