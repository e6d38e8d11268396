import Bootstrap.Shell.Variables

/-!
# Redirections

A redirection lets a descriptor lead to something else.  What descriptors led to
before is kept by those who want it back.
-/

namespace Bootstrap.Shell

open Machine

/-- What a descriptor is to lead to. -/
inductive Target where
  | fromFile (name : Raw)
  | both (name : Raw)
  /-- A file from its start; whether one that is there may be overwritten in any case. -/
  | toFile (insists : Bool) (name : Raw)
  | toFileEnd (name : Raw)
  | copyOf (source : Nat)
  | closed
  /-- A text of the script, by its number. -/
  | text (number : Nat)
  deriving DecidableEq, Repr

/-- A descriptor with what it is to lead to. -/
abbrev Redirection := Nat × Target

namespace Target

/-- The descriptor that a word names. -/
def ofWord (word : Raw) : Act Target := do
  match word with
  | ['-'] => return .closed
  | [c] => if c.isDigit then return .copyOf (c.toNat - 48) else Act.fail (raw "Bad fd number")
  | _ => Act.fail (raw "Bad fd number")

/-- Reports that a file cannot be opened or made. -/
def refuse {α : Type} (word : String) (purpose : Act.Purpose) (name : Raw) (e : Errno) : Act α :=
  Act.fail (raw "cannot " ++ raw word ++ raw " " ++ name ++ raw ": " ++ Act.reason e purpose)

/-- Opens a file for writing. -/
def «open» (name : Raw) (o : Step.Output) : Act Nat := do
  match ← Act.machine (Step.openOutput name o) with
  | .ok i => return i
  | .error e => refuse "create" .creating name e

/-- Opens a file that must not be there yet, unless it is no regular file. -/
def openFresh (name : Raw) : Act Nat := do
  match ← Act.machine (Step.stat name) with
  | .ok entry =>
      if entry.isFile then refuse "create" .creating name .fileExists
      else «open» name ⟨false, false, false, false⟩
  | .error _ => «open» name .afresh

/-- The stream that a target stands for; none for a descriptor that is to be closed. -/
def stream? (descriptor : Nat) : Target → Act (Option Nat)
  | .fromFile name => do
      match ← Act.machine (Step.openInput name) with
      | .ok i => return some i
      | .error e => refuse "open" .opening name e
  | .both name => return some (← «open» name ⟨true, false, false, true⟩)
  | .toFile insists name => do
      if !insists && (← Act.has 'C') then return some (← openFresh name)
      else return some (← «open» name .afresh)
  | .toFileEnd name => return some (← «open» name .atEnd)
  | .copyOf source => do
      match (← get).process.channels.lookup source with
      | some i => return some i
      | none =>
          if source = descriptor then return none
          else Act.fail (Raw.ofNat source ++ raw ": " ++ raw Errno.badDescriptor.strerror)
  | .closed | .text _ => return none

/-- Lets a descriptor lead to a target. -/
def connect (descriptor : Nat) (t : Target) : Act Unit := do
  match ← stream? descriptor t with
  | some i => Act.machine (Step.connect descriptor i)
  | none => Act.machine (Step.disconnect descriptor)

end Target

namespace Act

/-- Lets a descriptor read a text. -/
def connectText (descriptor : Nat) (text : Raw) : Act Unit :=
  machine (do Step.connect descriptor (← Step.newStream (.source text false)))

/-- What some descriptors lead to. -/
def channelsOf (descriptors : List Nat) : Act (List (Nat × Option Nat)) := do
  let channels := (← get).process.channels
  return descriptors.map fun d => (d, channels.lookup d)

/-- Lets descriptors lead to what they led to. -/
def putBack (channels : List (Nat × Option Nat)) : Act Unit := do
  for (d, i?) in channels do
    match i? with
    | some i => machine (Step.connect d i)
    | none => machine (Step.disconnect d)

end Act

end Bootstrap.Shell
