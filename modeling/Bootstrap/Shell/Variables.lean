import Bootstrap.Shell.State

/-!
# Variables

Variables keep the order in which they came to be.  One that is read-only cannot be
given a value or be removed.  The place in the options that are read follows one of
them.
-/

namespace Bootstrap.Shell

open Machine

/-- The characters of `text` from the front that are quotes, or those that are none. -/
def quotesFirst (quotes : Bool) (text : Raw) : Raw :=
  text.takeWhile fun c => (c == '\'') == quotes

/-- A value as it is listed: between single quotes, and quotes in it between double ones; `fuel`
bounds its length. -/
def listedWithin : (fuel : Nat) → Raw → Raw
  | 0, _ => []
  | fuel + 1, text =>
      let plain := quotesFirst false text
      let rest := text.drop plain.length
      let quotes := quotesFirst true rest
      let behind := rest.drop quotes.length
      '\'' :: plain ++ ['\''] ++
        (if quotes.isEmpty then [] else '"' :: quotes ++ ['"']) ++
        (if behind.isEmpty then [] else listedWithin fuel behind)

/-- A value as it is listed. -/
def listed (text : Raw) : Raw := listedWithin (text.length + 1) text

namespace Variable

/-- A variable that is not there. -/
def absent : Variable := ⟨none, false, false⟩

end Variable

/-- Some variables with one of them changed; a new one comes last. -/
def putVariable (name : Raw) (v : Variable) : List (Raw × Variable) → List (Raw × Variable)
  | [] => [(name, v)]
  | (other, w) :: rest =>
      if other = name then (name, v) :: rest else (other, w) :: putVariable name v rest

/-- The separators that are usual. -/
def usualSeparators : Raw := [' ', '\t', '\n']

/-- The search path where none is given. -/
def usualPath : Raw := raw "/usr/local/sbin:/usr/local/bin:/usr/sbin:/usr/bin:/sbin:/bin"

namespace Act

/-- The variable with a name. -/
def binding (name : Raw) : Act Variable := do
  return ((← get).bindings.lookup name).getD .absent

/-- The value of a variable. -/
def value? (name : Raw) : Act (Option Raw) := do return (← binding name).value

/-- Stores a variable, whatever it was. -/
def store (name : Raw) (v : Variable) : Act Unit :=
  modify fun s => { s with bindings := putVariable name v s.bindings }

/-- What follows from a new value of a variable. -/
def follow (name : Raw) (value : Option Raw) : Act Unit := do
  if name = raw "OPTIND" then
    let n ← match value with
      | some v => number v
      | none => pure 1
    modify fun s => { s with nextOption := (max n 1, none) }
  if name = raw "PATH" then modify fun s => { s with located := [] }

/-- Refuses a name that no variable can have. -/
def demandName (name : Raw) : Act Unit := do
  if !Word.isName name then fail (name ++ raw ": bad variable name")

/-- Gives a variable a value. -/
def assign (name value : Raw) : Act Unit := do
  demandName name
  let v ← binding name
  if v.isReadOnly then fail (name ++ raw ": is read only")
  else
    let exported := v.exported || (← has 'a')
    store name ⟨some value, exported, false⟩
    follow name (some value)

/-- Removes a variable. -/
def unset (name : Raw) : Act Unit := do
  demandName name
  let v ← binding name
  if v.isReadOnly then fail (name ++ raw ": is read only")
  else
    modify fun s => { s with bindings := s.bindings.filter (·.1 ≠ name) }
    follow name none

/-- Hands a variable on to programs. -/
def exportName (name : Raw) : Act Unit := do
  demandName name
  store name { (← binding name) with exported := true }

/-- Protects a variable from changes. -/
def protect (name : Raw) : Act Unit := do
  demandName name
  store name { (← binding name) with isReadOnly := true }

/-- Keeps what is to be put back at the end of the present command or function. -/
def keep (k : Kept) : Act Unit :=
  modify fun s => { s with kept :=
    match s.kept with
    | frame :: rest => (k :: frame) :: rest
    | [] => [[k]] }

/-- Keeps a variable.  One that was not there has no value until it gets one. -/
def keepVariable (name : Raw) : Act Unit := do
  demandName name
  let before := (← get).bindings.lookup name
  keep (.variable name before)
  if before.isNone then store name .absent

/-- Gives a variable a value until the present command ends, and hands it on to programs. -/
def lend (name value : Raw) : Act Unit := do
  keepVariable name
  assign name value
  exportName name

/-- Puts back what was kept since a frame was opened, and closes the frame. -/
def closeFrame : Act Unit := do
  match (← get).kept with
  | [] => pure ()
  | frame :: rest =>
      modify fun s => { s with kept := rest }
      for k in frame do
        match k with
        | .variable name (some v) =>
            store name v
            follow name v.value
        | .variable name none =>
            modify fun s => { s with bindings := s.bindings.filter (·.1 ≠ name) }
            follow name none
        | .options before => modify fun s => { s with options := before }

/-- Opens a frame. -/
def openFrame : Act Unit := modify fun s => { s with kept := [] :: s.kept }

/-- The characters that part fields. -/
def separators : Act Raw := do
  return (← value? (raw "IFS")).getD usualSeparators

/-- What stands between positional parameters in one text. -/
def joint : Act Raw := do
  match ← value? (raw "IFS") with
  | some separators => return separators.take 1
  | none => return [' ']

/-- The search path. -/
def searchPath : Act Raw := do return (← value? (raw "PATH")).getD []

end Act

/-- The place of a name among the variables that a program gets: the sum of its characters, the
first of which counts seventeen times. -/
def namePlace (name : Raw) : Nat :=
  name.foldl (fun n c => n + c.toNat) (16 * (name.headD 'a').toNat) % 39

/-- The variables that a program gets. -/
def Shell.environment (s : Shell) : List (Raw × Raw) :=
  let exported := s.bindings.filterMap fun (name, v) =>
    if v.exported then v.value.map (name, ·) else none
  exported.mergeSort fun a b => namePlace a.1 ≤ namePlace b.1

end Bootstrap.Shell
