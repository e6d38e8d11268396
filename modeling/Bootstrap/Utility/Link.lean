import Bootstrap.Utility.Transfer

/-!
# Utilities on names and links

They take paths apart, say what links hold and where they lead, and give files further
names.
-/

namespace Bootstrap.Utility

open Machine

/-! ## Parts of paths -/

/-- What ends a line of output. -/
def endingOf (a : Arguments) : Char := if a.has "z" then Raw.byte 0 else '\n'

/-- The last component of a path, which is a slash for the root. -/
def baseOf (name : Raw) : Raw :=
  if !name.isEmpty && name.all (· == '/') then ['/'] else lastComponent name

/-- A name without an ending, if something is left of it. -/
def withoutEnding (ending name : Raw) : Raw :=
  if ending.isSuffixOf name ∧ ending ≠ name then name.take (name.length - ending.length) else name

/-- Prints the last components of paths. -/
def basename (words : List Raw) : Step Nat := do
  let a ← arguments 1 ⟨"as:z",
    [("multiple", .none, "a"), ("suffix", .required, "s"), ("zero", .none, "z")], true⟩ words
  let multiple := a.hasAny ["a", "s"]
  match a.operands with
  | [] => missingOperand 1
  | first :: rest =>
      let say := fun (name ending : Raw) =>
        Step.printLater (withoutEnding ending (baseOf name) ++ [endingOf a])
      if multiple then
        for name in a.operands do
          say name ((a.value? "s").getD [])
        return 0
      else
        match rest with
        | _ :: extra :: _ => extraOperand 1 extra
        | _ => say first (rest.headD []); return 0

/-- A path without its last component. -/
def parentOf (name : Raw) : Raw :=
  let cut := Raw.dropEndWhile (· == '/') name
  let above := (cut.reverse.dropWhile (· ≠ '/')).reverse
  let parent := Raw.dropEndWhile (· == '/') above
  if !parent.isEmpty then parent
  else if above.isEmpty then if cut.isEmpty && !name.isEmpty then ['/'] else ['.']
  else ['/']

/-- Prints paths without their last components. -/
def dirname (words : List Raw) : Step Nat := do
  let a ← arguments 1 ⟨"z", [("zero", .none, "z")], false⟩ words
  if a.operands.isEmpty then missingOperand 1
  else
    for name in a.operands do
      Step.printLater (parentOf name ++ [endingOf a])
    return 0

/-! ## Where paths lead -/

/-- What has to be there of a path. -/
inductive Presence where
  | everything
  /-- Everything but the last component. -/
  | parents
  | nothing
  deriving DecidableEq, Repr

/-- The place that steps lead to, where what is missing counts as a directory; links are followed
while they lead somewhere. -/
def lenientPlace (fs : FileSystem) : Location → List PathStep → Location
  | here, [] => here
  | here, .stay :: rest => lenientPlace fs here rest
  | here, .up :: rest => lenientPlace fs here.dropLast rest
  | here, .into name :: rest =>
      let next := here ++ [name]
      let next := match fs.locate [] (FileSystem.pathOf next) with
        | .ok place => place
        | .error _ => next
      lenientPlace fs next rest

/-- The place that steps lead to by their text alone. -/
def textualPlace : Location → List PathStep → Location
  | here, [] => here
  | here, .stay :: rest => textualPlace here rest
  | here, .up :: rest => textualPlace here.dropLast rest
  | here, .into name :: rest => textualPlace (here ++ [name]) rest

/-- The place that a path leads to. -/
def placeOf (presence : Presence) (physical : Bool) (name : Raw) : Step (Except Errno Location) := do
  let p ← get
  let fs := p.common.files
  let path := name.path
  if name.isEmpty then return .error .noEntry
  else if !physical then
    let place := textualPlace (FileSystem.origin p.cwd path) path.steps
    if presence = .nothing ∨ (fs.nodeAt? place).isSome then return .ok place
    else return fs.reach p.cwd path
  else
    match presence with
    | .everything => return fs.locate p.cwd path
    | .parents => return fs.reach p.cwd path
    | .nothing =>
        match fs.locate p.cwd path with
        | .ok place => return .ok place
        | .error _ => return .ok (lenientPlace fs (FileSystem.origin p.cwd path) path.steps)

/-- The path of a place. -/
def placeText (place : Location) : Raw := Raw.ofString (FileSystem.pathOf place).text

/-- How many names two places have in common at their front. -/
def commonLength : Location → Location → Nat
  | x :: xs, y :: ys => if x = y then commonLength xs ys + 1 else 0
  | _, _ => 0

/-- The path that leads from a directory to a place. -/
def relativeText (directory place : Location) : Raw :=
  let shared := commonLength directory place
  let steps := List.replicate (directory.length - shared) (raw "..") ++
    (place.drop shared).map Raw.ofString
  if steps.isEmpty then ['.'] else Raw.joined ['/'] steps

/-- Says what links hold, or where paths lead. -/
def readlink (words : List Raw) : Step Nat := do
  let a ← arguments 1 ⟨"femnqsvz",
    [("canonicalize", .none, "f"), ("canonicalize-existing", .none, "e"),
      ("canonicalize-missing", .none, "m"), ("no-newline", .none, "n"), ("quiet", .none, "q"),
      ("silent", .none, "q"), ("verbose", .none, "v"), ("zero", .none, "z")], false⟩ words
  if a.operands.isEmpty then missingOperand 1
  else
    let ending := if a.has "n" && a.operands.length == 1 then [] else [endingOf a]
    onEach a.operands fun name => do
      let found ← match a.lastOf ["f", "e", "m"] with
        | none => do
            match ← Step.linkStat name with
            | .ok (.link text) => pure (.ok (Raw.ofString text))
            | .ok _ => pure (.error .invalidArgument)
            | .error e => pure (.error e)
        | some key => do
            let presence : Presence := match key with
              | "e" => .everything
              | "m" => .nothing
              | _ => .parents
            pure ((← placeOf presence true name).map placeText)
      match found with
      | .ok text => Step.printLater (text ++ ending); return 0
      | .error e =>
          if a.lastOf ["v", "q", "s"] == some "v" then complainAbout name e
          return 1

/-- The options of `realpath`. -/
def realpathOptions : Options :=
  ⟨"emqszLP",
    [("canonicalize-existing", .none, "e"), ("canonicalize-missing", .none, "m"),
      ("quiet", .none, "q"), ("strip", .none, "s"), ("no-symlinks", .none, "s"), ("zero", .none, "z"),
      ("relative-to", .required, "to"), ("relative-base", .required, "base"),
      ("logical", .none, "L"), ("physical", .none, "P")], false⟩

/-- Says where paths lead. -/
def realpath (words : List Raw) : Step Nat := do
  let a ← arguments 1 realpathOptions words
  let presence : Presence := match a.lastOf ["e", "m"] with
    | some "e" => .everything
    | some _ => .nothing
    | none => .parents
  let physical := !a.has "s"
  let directory := fun (key : String) => do
    match a.value? key with
    | none => return none
    | some name =>
        match ← placeOf presence physical name with
        | .ok place => return some place
        | .error e => complainAbout name e; Step.exit 1
  if a.operands.isEmpty then missingOperand 1
  else
    let start ← directory "to"
    let base ← directory "base"
    onEach a.operands fun name => do
      match ← placeOf presence physical name with
      | .error e =>
          if !a.has "q" then complainAbout name e
          return 1
      | .ok place =>
          let isRelative := match base with
            | some b => b.isPrefixOf place && (start.map b.isPrefixOf).getD true
            | none => start.isSome
          let text := if isRelative then relativeText ((start.or base).getD []) place else placeText place
          Step.printLater (text ++ [endingOf a])
          return 0

/-! ## Further names -/

/-- The options of `ln`. -/
def linkOptions : Options :=
  ⟨"bdFfiLnPrsS:t:Tv",
    [("symbolic", .none, "s"), ("force", .none, "f"), ("no-dereference", .none, "n"),
      ("no-target-directory", .none, "T"), ("target-directory", .required, "t"),
      ("relative", .none, "r"), ("verbose", .none, "v"), ("interactive", .none, "i"),
      ("backup", .optional, "b"), ("logical", .none, "L"), ("physical", .none, "P")], false⟩

/-- Where the operands of `ln` go: a single one goes into the current directory. -/
def linkDestination (a : Arguments) : Step Destination := do
  match a.value? "t", a.operands with
  | none, [only] =>
      if a.has "T" then
        misuse 1 (raw "missing destination file operand after " ++ NameQuoted.always only)
      else return ⟨[only], ['.'], true⟩
  | none, [first, target] =>
      let isLink ← do
        match ← Step.linkStat target with
        | .ok (.link _) => pure true
        | _ => pure false
      let opens ← Step.isDirectory target
      return ⟨[first], target, opens && !a.has "T" && !(a.has "n" && isLink)⟩
  | _, _ => destination a

/-- Gives a file another name, or makes a link to it. -/
def linkEntry (a : Arguments) (source target : Raw) : Step Nat := do
  let soft := a.has "s"
  let entry ← Step.linkStat source
  match soft, entry with
  | false, .error e => complainOf "failed to access " source e; return 1
  | false, .ok (.directory _) =>
      Step.complain (NameQuoted.asNeeded source ++ raw ": hard link not allowed for directory")
      return 1
  | _, _ =>
      let text ← if soft && a.has "r" then do
          match ← placeOf .nothing true source, ← placeOf .nothing true (parentOf target) with
          | .ok place, .ok directory => pure (relativeText directory place)
          | _, _ => pure source
        else pure source
      let forced := a.lastOf ["f", "i"] == some "f"
      let there ← Step.names target
      let same ← removesSource soft source target
      if there && forced && same then
        Step.complain (NameQuoted.always source ++ raw " and " ++ NameQuoted.always target ++
          raw " are the same file")
        return 1
      else
        let asks := a.lastOf ["f", "i"] == some "i" && there
        let goesOn ←
          if asks then agrees (raw "replace " ++ NameQuoted.always target) else pure true
        if !goesOn then return 0
        else
          if there && (forced || asks) && !(← isPlainDirectory target) then
            let _ ← Step.change fun fs cwd => fs.unlink cwd target.path
          let made ← Step.change fun fs cwd =>
            if soft then fs.makeLink cwd (Raw.toString text) target.path
            else fs.addName cwd source.path target.path
          match made with
          | .ok () =>
              if a.has "v" then
                Step.printLine (NameQuoted.always target ++ raw (if soft then " -> " else " => ") ++
                  NameQuoted.always text)
              return 0
          | .error e =>
              let kind := if soft then "symbolic link " else "hard link "
              let partner :=
                if soft then if text.isEmpty then raw " -> " ++ NameQuoted.always text else []
                else if e = .fileExists then [] else raw " => " ++ NameQuoted.always source
              Step.complain (raw "failed to create " ++ raw kind ++ NameQuoted.always target ++
                partner ++ raw ": " ++ raw e.strerror)
              return 1
where
  /-- Whether a source is gone when the target is removed. -/
  removesSource (soft : Bool) (source target : Raw) : Step Bool := do
    let p ← get
    let fs := p.common.files
    let origin := if soft then fs.locate p.cwd source.path else fs.reach p.cwd source.path
    match origin, fs.reach p.cwd target.path with
    | .ok here, .ok there => return here == there
    | _, _ => return false
  /-- Whether a name is a directory's own. -/
  isPlainDirectory (name : Raw) : Step Bool := do
    match ← Step.linkStat name with
    | .ok e => return e.isDirectory
    | .error _ => return false

/-- Gives files further names, or makes links to them. -/
def ln (words : List Raw) : Step Nat := do
  let a ← arguments 1 linkOptions words
  let d ← linkDestination a
  onEach d.sources fun source => linkEntry a source (d.nameOf source)

/-- Gives a file another name. -/
def link (words : List Raw) : Step Nat := do
  let a ← arguments 1 (plainOptions "") words
  match a.operands with
  | [] => missingOperand 1
  | [only] => misuse 1 (raw "missing operand after " ++ NameQuoted.always only)
  | [source, target] =>
      match ← Step.change fun fs cwd => fs.addName cwd source.path target.path with
      | .ok () => return 0
      | .error e =>
          Step.complain (raw "cannot create link " ++ NameQuoted.always target ++ raw " to " ++
            NameQuoted.always source ++ raw ": " ++ raw e.strerror)
          return 1
  | _ :: _ :: extra :: _ => extraOperand 1 extra

end Bootstrap.Utility
