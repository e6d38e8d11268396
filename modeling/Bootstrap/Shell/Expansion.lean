import Bootstrap.Shell.Builtin
import Bootstrap.Shell.Fields
import Bootstrap.Shell.Reader

/-!
# The parts of expansions that run no commands

What a tilde, a parameter, or an arithmetic expression comes to.  The expansions that
hold words or scripts are put together in `Bootstrap.Shell.Run`.
-/

namespace Bootstrap.Shell

open Machine

/-- Where a tilde stands for a directory. -/
inductive Tilde where
  | nowhere
  | atFront
  /-- At the front and behind colons. -/
  | behindColons
  deriving DecidableEq, Repr

/-- How a word is expanded. -/
structure WordUse where
  /-- Whether fields are wanted. -/
  full : Bool
  /-- Whether its characters count as those of an expansion. -/
  isInner : Bool
  tilde : Tilde

namespace Tilde

/-- The directories of users. -/
def homes : List (String × String) :=
  [("root", "/root"), ("daemon", "/usr/sbin"), ("bin", "/bin"), ("sys", "/dev"), ("sync", "/bin"),
    ("games", "/usr/games"), ("man", "/var/cache/man"), ("lp", "/var/spool/lpd"),
    ("mail", "/var/mail"), ("news", "/var/spool/news"), ("backup", "/var/backups"),
    ("proxy", "/bin"), ("www-data", "/var/www"), ("list", "/var/list"), ("irc", "/run/ircd"),
    ("nobody", "/nonexistent")]

/-- A stretch of text, in which a tilde at the front stands for a directory.  The name behind it has
to end in the stretch, or with it if it is `closed`. -/
def stretch (home : Option Raw) (closed : Bool) (text : Raw) : Word :=
  match text with
  | '~' :: rest =>
      let name := rest.takeWhile (· ≠ '/')
      let behind := rest.drop name.length
      let directory := if name.isEmpty then home else (homes.find? fun h => raw h.1 = name).map
        fun h => raw h.2
      match directory with
      | some d => if behind.isEmpty && !closed then [.text false text]
          else [.text true d, .text false behind]
      | none => [.text false text]
  | _ => [.text false text]

/-- A plain text with the tildes in it replaced; `isFirst` and `isLast` say whether it is at the front
or at the end of its word. -/
def inText (tilde : Tilde) (home : Option Raw) (isFirst isLast : Bool) (text : Raw) : Word :=
  match tilde with
  | .nowhere => [.text false text]
  | .atFront => if isFirst then stretch home isLast text else [.text false text]
  | .behindColons =>
      match text.splitOn ':' with
      | [] => []
      | first :: rest =>
          let closed := fun (more : List Raw) => isLast || !more.isEmpty
          let rec others : List Raw → Word
            | [] => []
            | s :: more => .text false [':'] :: stretch home (closed more) s ++ others more
          (if isFirst then stretch home (closed rest) first else [.text false first]) ++ others rest

/-- A word with the tildes in it replaced. -/
def replace (tilde : Tilde) (home : Option Raw) (w : Word) : Word :=
  if tilde = .nowhere then w else go true w
where
  /-- Goes on with the rest of the word. -/
  go (isFirst : Bool) : Word → Word
    | [] => []
    | .text false t :: rest => inText tilde home isFirst rest.isEmpty t ++ go false rest
    | p :: rest => p :: go false rest

end Tilde

namespace Act

/-- Positional parameters as fields. -/
def fieldsOf (ps : List Raw) : List Bit :=
  List.intercalate [.fieldEnd] (ps.map fun p => .present :: p.map Bit.quoted)

/-- All positional parameters. -/
def allPositional (isList quoted full : Bool) : Act (List Bit) := do
  let ps := (← get).positional
  if quoted && full && isList then return fieldsOf ps
  else if !quoted && full then
    let between := if (← value? (raw "IFS")).isSome then [Bit.gap] else [.expanded ' ']
    return List.intercalate between (ps.map (·.map Bit.expanded))
  else return Bit.ofValue quoted (Raw.joined (← joint) ps)

/-- What a parameter comes to, if it is set. -/
def parameter? (name : Raw) (quoted full : Bool) : Act (Option (List Bit)) := do
  let s ← get
  let given := fun (text : Raw) => some (Bit.ofValue quoted text)
  match name with
  | ['@'] => return some (← allPositional true quoted full)
  | ['*'] => return some (← allPositional false quoted full)
  | ['?'] => return given (Raw.ofNat s.status)
  | ['$'] => return given (Raw.ofNat s.rootId)
  | ['!'] => return s.latestJob.bind fun id => given (Raw.ofNat id)
  | ['#'] => return given (Raw.ofNat s.positional.length)
  | ['-'] => return given (Builtin.lettersOn s.options)
  | ['0'] => return given s.name
  | _ =>
      match Raw.digits? name with
      | some 0 => return given s.name
      | some n => return s.positional[n - 1]?.bind given
      | none => return (← value? name).bind given

/-- The value of an arithmetic expression. -/
def arithmetic (text : Raw) : Act Raw := do
  let s ← get
  let refuse := fun (what : String) =>
    fail (raw "arithmetic expression: " ++ raw what ++ raw ": \"" ++ text ++ ['"'])
  match Arithmetic.evaluate (fun name => (s.bindings.lookup name).bind Variable.value) text with
  | .ok (n, assigned) =>
      for (name, value) in assigned do
        assign name (Raw.ofInt value)
      return Raw.ofInt n
  | .error (.expecting what) => refuse ("expecting " ++ what)
  | .error .divisionByZero => refuse "division by zero"
  | .error (.notNumber value) => fail (raw "Illegal number: " ++ value)
  | .error .overflow => throw (.ended (.killed 8))

/-- Splits an expanded word into fields and replaces patterns by the names that they match. -/
def fields (bits : List Bit) : Act (List Raw) := do
  let s ← get
  let cut := Fields.cut (← separators) none false bits
  if ← has 'f' then return cut.map Fields.plain
  else return cut.flatMap (Fields.resolve s.process.common.files s.process.cwd)

/-- Loads the program with a name as the shell does: the search goes on at every obstacle, and the
latest one is reported. -/
def programNamed (path name : Raw) (words : List Raw) : Act (Except Errno Program) := do
  let p := (← get).process
  let environment := (← get).environment.map fun v => v.1 ++ '=' :: v.2
  let load := fun path =>
    if Program.isTooLong (words ++ environment) then .error .argumentsTooLong
    else Program.loadOrScript p.common.files p.cwd path words
  if name.contains '/' then return load name
  else return search load name .noEntry (path.splitOn ':')
where
  /-- Looks through directories. -/
  search (load : Raw → Except Errno Program) (name : Raw) :
      (obstacle : Errno) → List Raw → Except Errno Program
    | obstacle, [] => .error obstacle
    | obstacle, directory :: rest =>
        match load (Program.candidate directory name) with
        | .ok program => .ok program
        | .error e =>
            search load name (if e = .noEntry ∨ e = .notDirectory then obstacle else e) rest

/-- The status that stands for an obstacle in starting a program. -/
def statusOf (e : Errno) : Nat :=
  if e = .noEntry ∨ e = .notDirectory ∨ e = .linkLoop ∨ e = .nameTooLong then 127 else 126

end Act

end Bootstrap.Shell
