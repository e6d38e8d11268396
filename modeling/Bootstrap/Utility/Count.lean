import Bootstrap.Digest
import Bootstrap.Digest.Crc
import Bootstrap.Digest.Md5
import Bootstrap.Digest.Sha1
import Bootstrap.Utility.Arguments

/-!
# Utilities that count and check

They print how much there is in their inputs, number the lines, or print digests and
compare them with those in a list.
-/

namespace Bootstrap.Utility

open Machine

/-! ## Counting -/

/-- How much there is in a text. -/
structure Tally where
  lines : Nat
  words : Nat
  bytes : Nat
  /-- The width of the widest line. -/
  width : Nat

/-- Where counting stands in a line. -/
structure TallyPlace where
  tally : Tally
  inWord : Bool
  column : Nat

/-- Counts one more character.  A word begins with a character that can be printed. -/
def Tally.step (p : TallyPlace) (c : Char) : TallyPlace :=
  let t := { p.tally with bytes := p.tally.bytes + 1 }
  let wide := fun (column : Nat) => { t with width := max t.width column }
  if c = '\n' then ⟨{ wide p.column with lines := t.lines + 1 }, false, 0⟩
  else if c.toNat = 12 ∨ c.toNat = 13 then ⟨wide p.column, false, 0⟩
  else if c = '\t' then ⟨t, false, p.column / 8 * 8 + 8⟩
  else if c = ' ' then ⟨t, false, p.column + 1⟩
  else if c.toNat = 11 then ⟨t, false, p.column⟩
  else if NameQuoted.isPrintable c then
    ⟨if p.inWord then t else { t with words := t.words + 1 }, true, p.column + 1⟩
  else ⟨t, p.inWord, p.column⟩

/-- Counts what is in a text. -/
def Tally.ofText (text : Raw) : Tally :=
  let p := text.foldl Tally.step ⟨⟨0, 0, 0, 0⟩, false, 0⟩
  { p.tally with width := max p.tally.width p.column }

/-- The sum of two counts, and the wider of two widths. -/
def Tally.add (x y : Tally) : Tally :=
  ⟨x.lines + y.lines, x.words + y.words, x.bytes + y.bytes, max x.width y.width⟩

/-- The options of `wc`. -/
def countOptions : Options :=
  ⟨"lwcmL",
    [("lines", .none, "l"), ("words", .none, "w"), ("bytes", .none, "c"), ("chars", .none, "m"),
      ("max-line-length", .none, "L")], false⟩

/-- How wide the numbers are printed: as wide as the sizes of the files ask for, or seven where one
is no file. -/
def countWidth (names : List Raw) (single : Bool) : Step Nat := do
  if single then return 1
  else
    let (total, least) ← names.foldlM (fun (total, least) name => do
      let entry ← if name = ['-'] then do
          match ← Step.stream? 0 with
          | some (_, s) => pure (.ok (← Step.entryOf s))
          | none => pure (.error Errno.badDescriptor)
        else Step.stat name
      match entry with
      | .ok (.file content _) => return (total + content.length, least)
      | .ok _ => return (total, 7)
      | .error _ => return (total, least)) ((0 : Nat), (1 : Nat))
    return max (Raw.ofNat total).length least

/-- Counts lines, words and bytes. -/
def wc (words : List Raw) : Step Nat := do
  let a ← arguments 1 countOptions words
  let chosen := ["l", "w", "m", "c", "L"].filter fun k =>
    a.has k || (a.options.isEmpty && ["l", "w", "c"].contains k)
  let width ← countWidth a.inputs (a.operands.length ≤ 1 && chosen.length == 1)
  let row := fun (t : Tally) (name : Raw) =>
    let number := fun (key : String) => match key with
      | "l" => t.lines
      | "w" => t.words
      | "L" => t.width
      | _ => t.bytes
    Raw.spaced (chosen.map fun k => Raw.padLeft width (Raw.ofNat (number k)) ' ') ++
      if name.isEmpty then [] else ' ' :: name
  let (total, status) ← a.inputs.foldlM (fun (total, status) name => do
    let label := if a.operands.isEmpty then [] else name
    match ← input name with
    | .ok text =>
        let t := Tally.ofText text
        Step.printLine (row t label)
        return (total.add t, status)
    | .error e =>
        complainAbout (if a.operands.isEmpty then raw "standard input" else name) e
        if isReadFault e then Step.printLine (row ⟨0, 0, 0, 0⟩ label)
        return (total, 1)) ((⟨0, 0, 0, 0⟩ : Tally), 0)
  if 1 < a.operands.length then Step.printLine (row total (raw "total"))
  return status

/-- The options of `nl`. -/
def numberingOptions : Options :=
  ⟨"b:n:w:s:v:i:ph:f:d:l:",
    [("body-numbering", .required, "b"), ("number-format", .required, "n"),
      ("number-width", .required, "w"), ("number-separator", .required, "s"),
      ("starting-line-number", .required, "v"), ("line-increment", .required, "i")], false⟩

/-- Numbers the lines of its inputs; empty ones only if that is asked for. -/
def nl (words : List Raw) : Step Nat := do
  let a ← arguments 1 numberingOptions words
  let style := (a.value? "b").getD ['t']
  let format := (a.value? "n").getD (raw "rn")
  let width := ((a.value? "w").bind Raw.digits?).getD 6
  let separator := (a.value? "s").getD ['\t']
  let first := ((a.value? "v").bind Raw.int?).getD 1
  let increment := ((a.value? "i").bind Raw.int?).getD 1
  if !(["a", "t", "n"].contains (Raw.toString style)) then
    misuse 1 (raw "invalid body numbering style: " ++ NameQuoted.always style)
  else
    let (text, status) ← wholeInput 1 .plain a.inputs
    let label := fun (n : Int) =>
      let digits := Raw.ofInt n
      if format = raw "ln" then Raw.padRight width digits ' '
      else if format = raw "rz" then
        if n < 0 then '-' :: Raw.padLeft (width - 1) digits.tail '0' else Raw.padLeft width digits '0'
      else Raw.padLeft width digits ' '
    let blank := List.replicate (width + separator.length) ' '
    let (_, rows) := (Raw.lines text).foldl (fun ((n : Int), rows) line =>
      if style = ['a'] ∨ (style = ['t'] ∧ !line.isEmpty) then
        (n + increment, (label n ++ separator ++ line) :: rows)
      else (n, (blank ++ line) :: rows)) (first, ([] : List Raw))
    Step.printLater (Raw.ofLines rows.reverse)
    return status

/-! ## Digests -/

/-- A kind of digest: its name, and the digits of the digest of a text. -/
structure DigestKind where
  name : String
  digits : Raw → Raw

/-- The kinds of digest. -/
def DigestKind.sha256 : DigestKind :=
  ⟨"SHA256", fun text => raw (ContentDigest.ofBytes (Raw.toBytes text)).text⟩

/-- The digest of 160 bits. -/
def DigestKind.sha1 : DigestKind :=
  ⟨"SHA1", fun text => Bytes.hexDigits (Digest.Sha1.digest (Raw.toBytes text))⟩

/-- The digest of 128 bits. -/
def DigestKind.md5 : DigestKind :=
  ⟨"MD5", fun text => Bytes.hexDigits (Digest.Md5.digest (Raw.toBytes text))⟩

namespace DigestKind

/-- The options of the utilities that print digests. -/
def options : Options :=
  ⟨"bctwz",
    [("binary", .none, "b"), ("check", .none, "c"), ("text", .none, "t"), ("tag", .none, "tag"),
      ("quiet", .none, "quiet"), ("status", .none, "status"), ("strict", .none, "strict"),
      ("ignore-missing", .none, "ignore-missing"), ("warn", .none, "w"), ("zero", .none, "z")], false⟩

/-- A name in which line ends and backslashes are escaped, and whether there were any. -/
def escaped (name : Raw) : Raw × Bool :=
  (name.flatMap fun c => if c = '\n' then raw "\\n" else if c = '\\' then raw "\\\\" else [c],
    name.any fun c => c = '\n' ∨ c = '\\')

/-- A line of a list: the digits and the name that belongs to them. -/
def entry? (kind : DigestKind) (line : Raw) : Option (Raw × Raw) :=
  let tag := raw kind.name ++ raw " ("
  let isDigit := fun (c : Char) => (Raw.digit? 16 c).isSome
  let width := (kind.digits []).length
  if tag.isPrefixOf line then
    let body := line.drop tag.length
    let digits := (body.reverse.takeWhile isDigit).reverse
    let name := body.take (body.length - digits.length)
    if (raw ") = ").isSuffixOf name ∧ digits.length = width then
      some (digits, name.take (name.length - 4))
    else none
  else
    let digits := line.takeWhile isDigit
    match line.drop digits.length with
    | ' ' :: c :: name =>
        if (c = ' ' ∨ c = '*') ∧ digits.length = width ∧ !name.isEmpty then some (digits, name)
        else none
    | _ => none

/-- What became of the lines of a list. -/
structure Verdict where
  wrong : Nat
  unread : Nat
  malformed : Nat
  checked : Nat

/-- A warning about so many lines. -/
def warn (count : Nat) (one many : String) : Step Unit :=
  if count = 0 then pure ()
  else Step.complain (raw "WARNING: " ++ Raw.ofNat count ++ raw (if count = 1 then one else many))

/-- Checks the files of a list. -/
def check (kind : DigestKind) (a : Arguments) (list text : Raw) : Step Nat := do
  let say := fun (name : Raw) (result : String) =>
    if a.has "status" ∨ (a.has "quiet" ∧ result = "OK") then pure ()
    else Step.printLine (name ++ raw ": " ++ raw result)
  let v ← (Raw.lines text).foldlM (fun (v : Verdict) line => do
    match kind.entry? line with
    | none => return { v with malformed := v.malformed + 1 }
    | some (digits, name) =>
        match ← input name with
        | .error e =>
            if a.has "ignore-missing" ∧ e = .noEntry then return v
            else
              complainAbout name e
              say name "FAILED open or read"
              return { v with unread := v.unread + 1, checked := v.checked + 1 }
        | .ok content =>
            let right := kind.digits content == Raw.lower digits
            say name (if right then "OK" else "FAILED")
            return { v with
              wrong := if right then v.wrong else v.wrong + 1
              checked := v.checked + 1 }) ⟨0, 0, 0, 0⟩
  if v.checked = 0 then
    Step.complain (NameQuoted.asNeeded list ++ raw ": no properly formatted checksum lines found")
    return 1
  else
    if !a.has "status" then
      warn v.malformed " line is improperly formatted" " lines are improperly formatted"
      warn v.unread " listed file could not be read" " listed files could not be read"
      warn v.wrong " computed checksum did NOT match" " computed checksums did NOT match"
    return if v.wrong + v.unread = 0 ∧ !(a.has "strict" ∧ v.malformed ≠ 0) then 0 else 1

/-- Prints the digests of its inputs, or checks those in lists. -/
def run (kind : DigestKind) (words : List Raw) : Step Nat := do
  let a ← arguments 1 options words
  if a.has "c" then
    onEach a.inputs fun name => do
      match ← input name with
      | .ok text => kind.check a (if name = ['-'] then raw "'standard input'" else name) text
      | .error e => complainAbout name e; return 1
  else
    onInputs 1 .plain a.inputs fun name text => do
      let (shown, hasEscapes) := escaped name
      let mark := if hasEscapes then ['\\'] else []
      if a.has "tag" then
        Step.printLine (mark ++ raw kind.name ++ raw " (" ++ shown ++ raw ") = " ++ kind.digits text)
      else
        let binary := a.lastOf ["b", "t"] == some "b"
        Step.printLine (mark ++ kind.digits text ++ raw (if binary then " *" else "  ") ++ shown)

end DigestKind

/-- Prints checks and lengths. -/
def cksum (words : List Raw) : Step Nat := do
  let a ← arguments 1 ⟨"a:", [("algorithm", .required, "a")], false⟩ words
  match a.value? "a" with
  | some name =>
      let kinds := [DigestKind.sha256, .sha1, .md5]
      match kinds.find? fun k => Raw.lower (raw k.name) = name with
      | some kind => kind.run (raw "--tag" :: a.operands)
      | none => misuse 1 (raw "invalid argument " ++ NameQuoted.always name ++ raw " for '--algorithm'")
  | none =>
      onInputs 1 .plain a.inputs fun name text =>
        Step.printLine (Raw.ofNat (Digest.Crc.digest (Raw.toBytes text)) ++ ' ' ::
          Raw.ofNat text.length ++ if a.operands.isEmpty then [] else ' ' :: name)

end Bootstrap.Utility
