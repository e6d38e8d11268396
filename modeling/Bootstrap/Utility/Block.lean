import Bootstrap.Utility.Arguments

/-!
# Copying in blocks

One utility copies an input to an output block by block, from some block on and no
further than some block, and may change the bytes on the way.  It tells how many
blocks it read and wrote.
-/

namespace Bootstrap.Utility.Block

open Machine

/-- What is asked for: the words with an equals sign, in order. -/
abbrev Request := List (Raw × Raw)

/-- The value of a word. -/
def value? (r : Request) (name : String) : Option Raw :=
  ((r.filter (·.1 == raw name)).getLast?).map (·.2)

/-- The words that are understood. -/
def known : List String :=
  ["if", "of", "bs", "ibs", "obs", "cbs", "count", "skip", "iseek", "seek", "oseek", "conv", "status",
    "iflag", "oflag"]

/-- The changes on the way. -/
def conversions : List String :=
  ["ascii", "ebcdic", "ibm", "block", "unblock", "lcase", "ucase", "sparse", "swab", "sync", "excl",
    "nocreat", "notrunc", "noerror", "fdatasync", "fsync"]

/-- The flags of inputs and outputs. -/
def flags : List String :=
  ["append", "cio", "direct", "directory", "dsync", "sync", "fullblock", "nocache", "nonblock",
    "noatime", "noctty", "nofollow", "nolinks", "binary", "text", "count_bytes", "skip_bytes",
    "seek_bytes"]

/-- What is said at the end. -/
def levels : List String := ["none", "noxfer", "progress"]

/-- The product of the numbers that a text writes with an `x` between them. -/
def number? (text : Raw) : Option Nat := do
  let factors ← (text.splitOn 'x').mapM count?
  return factors.foldl (· * ·) 1

/-- The number behind a word, which may have to be above zero. -/
def number (r : Request) (name : String) (least otherwise : Nat) : Step Nat := do
  match value? r name with
  | none => return otherwise
  | some text =>
      let n? := number? (if text.getLast? = some 'B' ∧ (count? text).isNone then text.dropLast else text)
      match n? with
      | some n => if least ≤ n then return n else refuse text
      | none => refuse text
where
  /-- Refuses a number. -/
  refuse (text : Raw) : Step Nat := do
    Step.complain (raw "invalid number: " ++ NameQuoted.always text)
    Step.exit 1

/-- The items of a list with commas, all of which must be known. -/
def items (r : Request) (name what : String) (all : List String) : Step (List String) := do
  match value? r name with
  | none => return []
  | some text =>
      let words := text.splitOn ','
      match words.find? fun w => !all.contains (Raw.toString w) with
      | some w => misuse 1 (raw "invalid " ++ raw what ++ raw ": " ++ NameQuoted.always w)
      | none => return words.map Raw.toString

/-- A text in which neighbours have changed places. -/
def swapped : Raw → Raw
  | a :: b :: rest => b :: a :: swapped rest
  | rest => rest

/-- A text whose last block is filled up with zeros. -/
def filledUp (size : Nat) (text : Raw) : Raw :=
  let rest := text.length % size
  if rest = 0 then text else text ++ List.replicate (size - rest) (Raw.byte 0)

/-- How many blocks of a size a text takes, the full ones and a rest. -/
def counted (size length : Nat) : Raw :=
  Raw.ofNat (length / size) ++ '+' :: raw (if length % size = 0 then "0" else "1")

/-- The complaint about a file that could not be opened. -/
def notOpened (name : Raw) (e : Errno) : Step Nat := do
  complainOf "failed to open " name e
  return 1

/-- Writes what was copied to a file from an offset on, behind which the file is cut if it is to
be. -/
def writeTo (name : Raw) (conversions flags : List String) (offset : Nat) (text : Raw) :
    Step (Except Errno Unit) := do
  let cuts := !conversions.contains "notrunc"
  let there ← Step.names name
  if conversions.contains "excl" && there then return .error .fileExists
  else
    let o : Step.Output :=
      { creates := !conversions.contains "nocreat"
        truncates := cuts && offset == 0
        appends := flags.contains "append"
        reads := false }
    match ← Step.openOutput name o with
    | .error e => return .error e
    | .ok i =>
        match (← get).common.streams[i]? with
        | some (.file number _ appends reads writes) =>
            if cuts then
              Step.modifyCommon fun c => { c with
                files := c.files.changeFile number fun f =>
                  { f with
                    content := f.content.take offset ++
                      List.replicate (offset - f.content.length) 0 } }
            Step.writeTo i (.file number offset appends reads writes) text
        | some s => if text.isEmpty then return .ok () else Step.writeTo i s text
        | none => return .error .badDescriptor

/-- Copies in blocks. -/
def copy (words : List Raw) : Step Nat := do
  let a ← arguments 1 ⟨"", [], false⟩ words
  let r := a.operands.map fun (w : Raw) =>
    let name := w.takeWhile (· ≠ '=')
    (name, w.drop (name.length + 1))
  match a.operands.find? fun w =>
    !(w.contains '=' && known.contains (Raw.toString (w.takeWhile (· ≠ '=')))) with
  | some w => misuse 1 (raw "unrecognized operand " ++ NameQuoted.always w)
  | none =>
      let converts ← items r "conv" "conversion" conversions
      let inputFlags ← items r "iflag" "input flag" flags
      let outputFlags ← items r "oflag" "output flag" flags
      let level ← items r "status" "status level" levels
      let both ← number r "bs" 1 0
      let inputSize ← number r "ibs" 1 512
      let outputSize ← number r "obs" 1 512
      let inputSize := if both = 0 then inputSize else both
      let outputSize := if both = 0 then outputSize else both
      let bytesOf := fun (name : String) (flag : Bool) (size n : Nat) =>
        if flag || ((value? r name).bind List.getLast?) == some 'B' then n else n * size
      let count ← number r "count" 0 0
      let limit := (value? r "count").map fun _ =>
        bytesOf "count" (inputFlags.contains "count_bytes") inputSize count
      let skipped ← number r (if (value? r "iseek").isSome then "iseek" else "skip") 0 0
      let skip := bytesOf "skip" (inputFlags.contains "skip_bytes") inputSize skipped
      let sought ← number r (if (value? r "oseek").isSome then "oseek" else "seek") 0 0
      let offset := bytesOf "seek" (outputFlags.contains "seek_bytes") outputSize sought
      let source ← match value? r "if" with
        | some name => Step.openInput name
        | none =>
            match ← Step.stream? 0 with
            | some (i, _) => pure (.ok i)
            | none => pure (.error .badDescriptor)
      match source with
      | .error e => notOpened ((value? r "if").getD (raw "standard input")) e
      | .ok i =>
          Step.connect 0 i
          let found ← Step.ahead 0 ((limit.map (skip + ·)).getD Step.endless)
          let text := match found with
            | .ok text => text
            | .error _ => []
          let taken := match limit with
            | some n => (text.drop skip).take n
            | none => text.drop skip
          Step.skip 0 (skip + taken.length)
          let shown := fun (c : Char) =>
            if converts.contains "ucase" then c.toUpper
            else if converts.contains "lcase" then c.toLower
            else c
          let changed := (if converts.contains "sync" then filledUp inputSize taken else taken).map shown
          let changed := if converts.contains "swab" then swapped changed else changed
          let written ← match value? r "of" with
            | some name => writeTo name converts outputFlags offset changed
            | none => Step.write 1 changed
          let target := (value? r "of").getD (raw "standard output")
          let reading ← match found with
            | .ok _ => pure 0
            | .error e =>
                complainOf "error reading " ((value? r "if").getD (raw "standard input")) e
                pure 1
          match written, (value? r "of").isSome with
          | .error e, true => notOpened target e
          | _, _ =>
              let status ← match written with
                | .ok () => pure reading
                | .error e =>
                    complainOf "error writing " target e
                    pure 1
              if level.contains "none" then return status
              else
                Step.errorLine (counted inputSize taken.length ++ raw " records in")
                Step.errorLine (counted outputSize changed.length ++ raw " records out")
                if !level.contains "noxfer" then
                  Step.errorLine (Raw.ofNat changed.length ++
                    raw (if changed.length = 1 then " byte" else " bytes") ++
                    raw " copied, 0.0001 s, 0.0 kB/s")
                return status

end Bootstrap.Utility.Block
