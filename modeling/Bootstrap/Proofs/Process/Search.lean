import Bootstrap.Process.World
import Bootstrap.Proofs.FileSystem.Absolute
import Bootstrap.Proofs.FileSystem.View
import Bootstrap.Proofs.Text.Octets

/-!
# The file that a host starts

There are two searches for a program.  The configuration looks for the first file of that
name, from the current directory of the run; a host looks for the first file that it can
load, from the directory that the program is to start in:

                     starts from        passes over
    location         the run's own      what is no file
    host             the program's      what is missing or may not be run

They go through the same list, and the path texts that they try differ in a slash at
most.  Two searches through one list end at the same entry if the result of each one passes
the test of the other.

* `Host.started?` — the place of the file that a host starts;
* `Host.started?_of_absolute` — an absolute program is started where its path leads;
* `Host.started?_of_located` — **a located program is started** where it was located.
-/

namespace Bootstrap

open FileSystem

/-- Two searches end at the same entry if each result passes the test of the other search. -/
theorem eq_of_find? {α : Type} {l : List α} {p q : α → Bool} {a b : α} (ha : l.find? p = some a)
    (hb : l.find? q = some b) (hqa : q a = true) (hpb : p b = true) : a = b := by
  induction l with
  | nil => cases ha
  | cons x rest ih =>
      rw [List.find?_cons] at ha hb
      cases hp : p x with
      | true =>
          rw [hp] at ha
          cases ha
          rw [hqa] at hb
          exact Option.some.inj hb
      | false =>
          rw [hp] at ha
          cases hq : q x with
          | true =>
              rw [hq] at hb
              cases hb
              rw [hpb] at hp
              cases hp
          | false =>
              rw [hq] at hb
              exact ih ha hb

theorem exists_of_isOk {ε α : Type} {x : Except ε α} (h : x.isOk = true) : ∃ a, x = .ok a := by
  cases x with
  | error e => cases h
  | ok a => exact ⟨a, rfl⟩

namespace FileSystem

variable {fs : FileSystem} {here cwd : Location} {p q : Path}

/-- Paths of the same steps lead to the same place, from wherever they begin. -/
theorem reach_congr (hsteps : p.steps = q.steps) (habsolute : p.isAbsolute = q.isAbsolute)
    (hbase : q.isAbsolute = true ∨ here = cwd) (hp : acceptable p = .ok ())
    (hq : acceptable q = .ok ()) : fs.reach here p = fs.reach cwd q := by
  have horigin : origin here p = origin cwd q := by
    unfold origin
    rw [habsolute]
    rcases hbase with hq | rfl
    · rw [hq, if_pos rfl, if_pos rfl]
    · rfl
  unfold reach
  rw [hp, hq, hsteps, horigin]

theorem reach_of_absolute (h : p.isAbsolute = true) : fs.reach here p = fs.reach cwd p := by
  unfold reach origin
  rw [h, if_pos rfl, if_pos rfl]

theorem stat_congr (h : fs.reach here p = fs.reach cwd q) : fs.stat here p = fs.stat cwd q := by
  unfold stat
  rw [h]

theorem acceptable_of_stat {entry : Entry} (h : fs.stat cwd p = .ok entry) :
    acceptable p = .ok () := by
  obtain ⟨_, hreach, _⟩ := stat_eq_ok_iff.1 h
  exact (reach_eq_ok_iff.1 hreach).1

end FileSystem

namespace Machine.Program

variable {attempt : Raw → Except Errno Program} {name searchPath file : Raw} {program : Program}
variable {fs : FileSystem} {here cwd : Location} {words : List Raw}

/-! ### Searching -/

/-- Whether a search ends at a file: it can be loaded, or it is neither missing nor forbidden. -/
def isEnd : Except Errno Program → Bool
  | .ok _ => true
  | .error e => !goesOn e

/-- The file that a search by name ends at. -/
def file? (attempt : Raw → Except Errno Program) (searchPath name : Raw) : Option Raw :=
  if name.contains '/' then some name
  else ((searchPath.splitOn ':').map (candidate · name)).find? fun file => isEnd (attempt file)

/-- A search that succeeds has loaded the file that it ended at. -/
theorem searchIn_eq_ok {denied : Bool} {directories : List Raw}
    (h : searchIn attempt name denied directories = .ok program) :
    ∃ file, (directories.map (candidate · name)).find? (fun file => isEnd (attempt file)) = some file ∧
      attempt file = .ok program := by
  induction directories generalizing denied with
  | nil => cases h
  | cons directory rest ih =>
      rw [searchIn] at h
      rw [List.map_cons, List.find?_cons]
      cases hload : attempt (candidate directory name) with
      | ok found =>
          rw [hload] at h
          cases h
          exact ⟨_, rfl, hload⟩
      | error e =>
          rw [hload] at h
          cases hgoes : goesOn e with
          | true =>
              simp only [hgoes, if_true] at h
              have hpasses : isEnd (.error e) = false := by rw [isEnd, hgoes]; rfl
              simp only [hpasses]
              exact ih h
          | false =>
              simp only [hgoes] at h
              cases h

theorem findBy_eq_ok (h : findBy attempt searchPath name = .ok program) :
    ∃ file, file? attempt searchPath name = some file ∧ attempt file = .ok program := by
  unfold findBy at h
  unfold file?
  split at h
  · cases h
  · split at h
    · rename_i hslash
      rw [if_pos hslash]
      exact ⟨name, rfl, h⟩
    · rename_i hslash
      rw [if_neg hslash]
      split at h
      · cases h
      · exact searchIn_eq_ok h

/-! ### Loading -/

/-- What is loaded is a file. -/
theorem stat_of_load {path : Raw} (h : load fs here path words = .ok program) :
    ∃ content mode, fs.stat here path.path = .ok (.file content mode) := by
  unfold load at h
  split at h
  · cases h
  · unfold fileLimit loadWithin at h
    split at h
    · cases h
    · rename_i hstat
      split at h
      · exact ⟨_, _, hstat⟩
      · cases h

/-- Whether a file can be loaded depends on what its path leads to, not on the words. -/
theorem loadWithin_isOk {path other : Raw} {words words' : List Raw} (budget : Nat)
    (h : fs.stat here path.path = fs.stat here other.path) :
    (loadWithin fs here budget path words).isOk = (loadWithin fs here budget other words').isOk := by
  induction budget generalizing path other words words' with
  | zero => rfl
  | succ budget ih =>
      unfold loadWithin
      rw [h]
      cases fs.stat here other.path with
      | error e => rfl
      | ok entry =>
          cases entry with
          | file content mode =>
              by_cases hexecutable : (Entry.file content mode).isExecutable = true
              · simp only [if_pos hexecutable]
                cases Executable.ofContent? content with
                | none => rfl
                | some executable =>
                    cases executable with
                    | utility name => rfl
                    | script interpreter argument => exact ih rfl
              · simp only [if_neg hexecutable]
          | _ => rfl

theorem load_isOk {path other : Raw} (h : fs.stat here path.path = fs.stat here other.path) :
    (load fs here path words).isOk = (load fs here other words).isOk := by
  unfold load
  split
  · rfl
  · exact loadWithin_isOk _ h

/-! ### Candidates -/

section

variable {directory : List Char} {base : String} {entry : Entry}

/-- The path of a name in a directory of the search path. -/
def candidatePath (directory : List Char) (base : String) : Path :=
  if directory = [] then ⟨base⟩ else Path.ofChars (directory ++ '/' :: base.toList)

theorem path_candidate :
    (candidate (Raw.ofChars directory) (Raw.ofString base)).path = candidatePath directory base := by
  unfold candidate candidatePath
  by_cases hempty : directory = []
  · rw [hempty, Raw.ofChars_nil, List.isEmpty_nil, if_pos rfl, if_pos rfl, Raw.path_ofString]
  · have hraw : (Raw.ofChars directory).isEmpty = false := by
      rw [List.isEmpty_eq_false_iff, Ne, Raw.ofChars_eq_nil_iff]
      exact hempty
    rw [hraw, if_neg (by decide), if_neg hempty, Raw.ofString_eq,
      ← Raw.ofChars_cons_of_ascii (by decide), ← Raw.ofChars_append, Raw.path_ofChars]

/-- The path text that a host tries has the steps of the one that is located. -/
theorem candidatePath_alike (directory : List Char) (hbase : ProperName base) :
    (candidatePath directory base).steps = ((Path.ofChars directory).push base).steps ∧
      (candidatePath directory base).isAbsolute = (Path.ofChars directory).isAbsolute := by
  obtain ⟨hends, habsolute⟩ := Path.push_ends (Path.ofChars directory) hbase
  unfold candidatePath
  split
  · rename_i hempty
    subst hempty
    have hpush : (Path.ofChars []).push base = ⟨base⟩ := by
      have hrelative := (Path.plain_of_noSlash hbase.noSlash).1
      unfold Path.push Path.join
      rw [Path.ofChars, String.ofList_toList] at hrelative
      rw [hrelative, if_neg (by decide), if_pos (by decide), Path.chars_ofChars, List.nil_append]
      exact congrArg Path.mk String.ofList_toList
    rw [hpush] at habsolute
    exact ⟨by rw [hpush], habsolute⟩
  · rename_i hne
    have hchars := Path.chars_ofChars (directory ++ '/' :: base.toList)
    have hcandidate := Path.ends_of_chars hchars hbase.noSlash hbase.1 hbase.2.1 hbase.2.2.1
    rw [String.ofList_toList] at hcandidate
    refine ⟨?_, ?_⟩
    · rw [hcandidate.steps, hends.steps, Path.bareSteps, Path.stretches, Path.chars_ofChars]
    · rw [Path.isAbsolute_of_chars hchars, Path.isAbsolute, Path.chars_ofChars]
      cases directory with
      | nil => exact absurd rfl hne
      | cons c rest => rfl

theorem isEmpty_of_chars {p : Path} (front : List Char) (hbase : ProperName base)
    (hchars : p.chars = front ++ base.toList) : p.text.isEmpty = false := by
  rw [Bool.eq_false_iff]
  intro hempty
  have hnil : p.chars = [] := by simpa [Path.chars] using hempty
  rw [hchars] at hnil
  exact hbase.1 (List.append_eq_nil_iff.1 hnil).2

/-- The path text that is located is not the longer one of the two. -/
theorem acceptable_push (hbase : ProperName base)
    (h : acceptable (candidatePath directory base) = .ok ()) :
    acceptable ((Path.ofChars directory).push base) = .ok () := by
  have hrelative : (⟨base⟩ : Path).isAbsolute = false := by
    have hplain := (Path.plain_of_noSlash hbase.noSlash).1
    rwa [Path.ofChars, String.ofList_toList] at hplain
  have hpushed : ((Path.ofChars directory).push base).chars =
      (Path.ofChars directory).lead ++ base.toList := by
    rw [Path.push, Path.chars_join, hrelative, if_neg (by decide)]
    rfl
  have htext : ((Path.ofChars directory).push base).text =
      String.ofList (Path.ofChars directory).lead ++ base := by
    rw [← String.toList_inj, String.toList_append, String.toList_ofList]
    exact hpushed
  rw [acceptable_iff] at h ⊢
  refine ⟨isEmpty_of_chars _ hbase hpushed, Nat.lt_of_le_of_lt ?_ h.2⟩
  rw [htext, String.utf8ByteSize_append]
  unfold candidatePath Path.lead
  rw [Path.chars_ofChars]
  by_cases hempty : directory = []
  · subst hempty
    simp
  · have hcandidate : (Path.ofChars (directory ++ '/' :: base.toList)).text =
        String.ofList directory ++ String.ofList ['/'] ++ base := by
      rw [← String.toList_inj, Path.ofChars]
      simp
    rw [if_neg hempty, hcandidate, String.utf8ByteSize_append, String.utf8ByteSize_append]
    split
    · omega
    · have hlead : (String.ofList (directory ++ ['/'])).utf8ByteSize =
          (String.ofList directory).utf8ByteSize + (String.ofList ['/']).utf8ByteSize := by
        rw [String.ofList_append, String.utf8ByteSize_append]
      omega

/-- A path text that a host cannot be given is too long. -/
theorem acceptable_candidatePath (directory : List Char) (hbase : ProperName base) :
    acceptable (candidatePath directory base) = .ok () ∨
      acceptable (candidatePath directory base) = .error .nameTooLong := by
  have hne : (candidatePath directory base).text.isEmpty = false := by
    unfold candidatePath
    split
    · exact isEmpty_of_chars [] hbase rfl
    · simp [Path.ofChars]
  unfold acceptable
  rw [hne, if_neg (by decide)]
  split
  · exact .inr rfl
  · exact .inl rfl

/-- **What a host tries is what is located**, if it can be given to it and both begin alike. -/
theorem reach_candidatePath (fs : FileSystem) (hbase : ProperName base)
    (hbegin : (Path.ofChars directory).isAbsolute = true ∨ here = cwd)
    (h : acceptable (candidatePath directory base) = .ok ()) :
    fs.reach here (candidatePath directory base) =
      fs.reach cwd ((Path.ofChars directory).push base) := by
  obtain ⟨hsteps, habsolute⟩ := candidatePath_alike directory hbase
  obtain ⟨_, hpushed⟩ := Path.push_ends (Path.ofChars directory) hbase
  refine reach_congr hsteps (habsolute.trans hpushed.symm) ?_ h (acceptable_push hbase h)
  rwa [hpushed]

/-- A file that can be located and loaded ends the search of a host too. -/
theorem isEnd_candidate {content : Bytes} {mode : Nat} {located : Path} (hbase : ProperName base)
    (hbegin : (Path.ofChars directory).isAbsolute = true ∨ here = cwd)
    (hlocated : located = (Path.ofChars directory).push base)
    (hstat : fs.stat cwd located = .ok (.file content mode))
    (hloads : (load fs here (Raw.ofString located.text) words).isOk = true) :
    isEnd (load fs here (candidate (Raw.ofChars directory) (Raw.ofString base)) words) = true := by
  subst hlocated
  have hsame : fs.stat here ((Path.ofChars directory).push base) =
      fs.stat cwd ((Path.ofChars directory).push base) := by
    refine stat_congr ?_
    rcases hbegin with habsolute | rfl
    · obtain ⟨_, hpushed⟩ := Path.push_ends (Path.ofChars directory) hbase
      exact reach_of_absolute (hpushed.trans habsolute)
    · rfl
  rcases acceptable_candidatePath directory hbase with haccept | hlong
  · have hreach := reach_candidatePath fs hbase hbegin haccept
    have hleads : fs.stat here (candidate (Raw.ofChars directory) (Raw.ofString base)).path =
        fs.stat here (Raw.ofString ((Path.ofChars directory).push base).text).path := by
      rw [path_candidate, Raw.path_ofString, stat_congr hreach, hsame]
    rw [← load_isOk hleads] at hloads
    obtain ⟨program, hload⟩ := exists_of_isOk hloads
    rw [hload]
    rfl
  · -- A path text that is too long ends the search with that error.
    have hstat' : fs.stat here (candidate (Raw.ofChars directory) (Raw.ofString base)).path =
        .error .nameTooLong := by
      rw [path_candidate]
      unfold FileSystem.stat reach
      rw [hlong]
      rfl
    unfold load at hloads ⊢
    split
    · rfl
    · unfold fileLimit loadWithin
      rw [hstat']
      rfl

end

end Machine.Program

namespace Host

open Machine

variable {env : Environment} {i : Invocation} {cwd here place : Location} {fs : FileSystem}
variable {p : Path} {attempt : Raw → Except Errno Machine.Program}

/-- How a host loads a file for an invocation. -/
def loads (i : Invocation) (fs : FileSystem) (here : Location) (file : Raw) :
    Except Errno Machine.Program :=
  Machine.Program.load fs here file (i.words.map Raw.ofString)

/-- The search path of a host. -/
def searchPath (env : Environment) : Raw := Raw.ofString ((env.get? "PATH").getD World.fallbackPath)

/-- **The place of the file that a host starts** for an invocation.  If the file is a script, its
interpreter is another file. -/
def started? (env : Environment) (i : Invocation) (cwd : Location) (fs : FileSystem) :
    Option Location := do
  let here ← (World.startDirectory fs cwd i.directory).toOption
  let file ← Machine.Program.file? (loads i fs here) (searchPath env) (Raw.ofString i.program.text)
  let _ ← (loads i fs here file).toOption
  (fs.reach here file.path).toOption

theorem toOption_eq_some_iff {ε α : Type} {x : Except ε α} {a : α} :
    x.toOption = some a ↔ x = .ok a := by
  constructor
  · exact eq_ok_of_toOption
  · rintro rfl
    rfl

theorem started?_eq_some_iff :
    started? env i cwd fs = some place ↔
      ∃ here file program, World.startDirectory fs cwd i.directory = .ok here ∧
        Machine.Program.file? (loads i fs here) (searchPath env) (Raw.ofString i.program.text) =
          some file ∧
        loads i fs here file = .ok program ∧ fs.reach here file.path = .ok place := by
  unfold started?
  simp only [Option.bind_eq_bind, Option.bind_eq_some_iff, toOption_eq_some_iff]
  constructor
  · rintro ⟨here, hhere, file, hfile, program, hload, hreach⟩
    exact ⟨here, file, program, hhere, hfile, hload, hreach⟩
  · rintro ⟨here, file, program, hhere, hfile, hload, hreach⟩
    exact ⟨here, hhere, file, hfile, program, hload, hreach⟩

/-- A host that runs something has started a file. -/
theorem exists_started? {sink : Sink} {run : ChildRun} (h : inWorld env i sink cwd fs = .ok run) :
    ∃ place, started? env i cwd fs = some place := by
  unfold inWorld at h
  split at h
  · cases h
  · dsimp only at h
    split at h
    · cases h
    · rename_i here program hfound
      obtain ⟨here', hhere, hrest⟩ := bind_eq_ok_iff.1 hfound
      obtain ⟨program', hfind, hpair⟩ := bind_eq_ok_iff.1 hrest
      cases hpair
      obtain ⟨file, hfile, hload⟩ := Machine.Program.findBy_eq_ok hfind
      obtain ⟨content, mode, hstat⟩ := Machine.Program.stat_of_load hload
      obtain ⟨place, hreach, _⟩ := stat_eq_ok_iff.1 hstat
      exact ⟨place, started?_eq_some_iff.2 ⟨_, file, _, hhere, hfile, hload, hreach⟩⟩

/-- **An absolute program is started where its path leads.** -/
theorem started?_of_absolute (habsolute : i.program.isAbsolute = true)
    (h : started? env i cwd fs = some place) : fs.reach cwd i.program = .ok place := by
  obtain ⟨here, file, program, _, hfile, _, hreach⟩ := started?_eq_some_iff.1 h
  have hslash : (Raw.ofString i.program.text).contains '/' = true := by
    rw [List.contains_iff_mem, Raw.ofString_eq, Raw.mem_ofChars_of_ascii (by decide)]
    exact List.mem_of_head? (eq_of_beq habsolute)
  unfold Machine.Program.file? at hfile
  rw [if_pos hslash] at hfile
  cases hfile
  rw [Raw.path_ofString] at hreach
  rwa [reach_of_absolute habsolute] at hreach

/-- **What brings a host to the file `p`** that is located under the name of the toolchain. -/
structure Seeks (env : Environment) (i : Invocation) (cwd : Location) (fs : FileSystem) (p : Path) :
    Prop where
  /-- It is the file that is located on these files. -/
  located : ToolchainSource.system.locate fs cwd env = some p
  /-- It can be loaded. -/
  loaded : ∀ here, World.startDirectory fs cwd i.directory = .ok here →
    (loads i fs here (Raw.ofString p.text)).isOk = true
  /-- The directories of the search path mean the same to the program as to the run. -/
  begun : ∀ here, World.startDirectory fs cwd i.directory = .ok here → here = cwd ∨
    ∀ path, env.get? "PATH" = some path → ∀ d ∈ Environment.directoriesOf path, d.isAbsolute = true

/-- What is located on the search path is the first directory with such a file. -/
theorem exists_located (h : ToolchainSource.system.locate fs cwd env = some p) :
    ∃ path directory, env.get? "PATH" = some path ∧
      (path.toList.splitOn ':').find? (fun d =>
        fs.isFile cwd ((Path.ofChars d).push Layout.toolchainName)) = some directory ∧
      (Path.ofChars directory).push Layout.toolchainName = p := by
  unfold ToolchainSource.locate ToolchainSource.findOnSearchPath at h
  obtain ⟨path, hpath, h⟩ := Option.bind_eq_some_iff.1 h
  rw [Environment.directoriesOf, List.map_map, List.find?_map] at h
  obtain ⟨directory, hfound, hpush⟩ := Option.map_eq_some_iff.1 h
  exact ⟨path, directory, hpath, hfound, hpush⟩

/-- What a host finds by name is the first directory with a file that ends its search. -/
theorem exists_found {name path : String} {file : Raw} (hslash : '/' ∉ name.toList)
    (hfile : Machine.Program.file? attempt (Raw.ofString path) (Raw.ofString name) = some file) :
    ∃ directory, (path.toList.splitOn ':').find? (fun d => Machine.Program.isEnd
        (attempt (Machine.Program.candidate (Raw.ofChars d) (Raw.ofString name)))) = some directory ∧
      Machine.Program.candidate (Raw.ofChars directory) (Raw.ofString name) = file := by
  have hnone : (Raw.ofString name).contains '/' = false := by
    rw [Bool.eq_false_iff, Ne, List.contains_iff_mem, Raw.ofString_eq,
      Raw.mem_ofChars_of_ascii (by decide)]
    exact hslash
  unfold Machine.Program.file? at hfile
  rw [hnone, if_neg (by decide), Raw.ofString_eq path, Raw.splitOn_ofChars (by decide),
    List.map_map, List.find?_map] at hfile
  obtain ⟨directory, hfound, hcandidate⟩ := Option.map_eq_some_iff.1 hfile
  exact ⟨directory, hfound, hcandidate⟩

/-- **A located program is started** where it was located. -/
theorem started?_of_located (hseeks : Seeks env i cwd fs p)
    (hprogram : i.program = ⟨Layout.toolchainName⟩) (h : started? env i cwd fs = some place) :
    fs.reach cwd p = .ok place := by
  have hname : ProperName Layout.toolchainName := by decide
  obtain ⟨here, file, program, hhere, hfile, hload, hreach⟩ := started?_eq_some_iff.1 h
  obtain ⟨path, directory, hpath, hlocated, rfl⟩ := exists_located hseeks.located
  rw [hprogram, searchPath, hpath] at hfile
  obtain ⟨directory', hfound, rfl⟩ := exists_found hname.noSlash hfile
  have hbegin : ∀ d ∈ path.toList.splitOn ':', (Path.ofChars d).isAbsolute = true ∨ here = cwd := by
    intro d hd
    rcases hseeks.begun here hhere with hsame | habsolute
    · exact .inr hsame
    · exact .inl (habsolute path hpath _ (List.mem_map_of_mem hd))
  -- What was loaded is a file for the other search as well.
  obtain ⟨content, mode, hstat⟩ := Machine.Program.stat_of_load hload
  rw [Machine.Program.path_candidate] at hstat hreach
  have hsame := Machine.Program.reach_candidatePath fs hname
    (hbegin _ (List.mem_of_find?_eq_some hfound)) (acceptable_of_stat hstat)
  have hisFile : fs.isFile cwd ((Path.ofChars directory').push Layout.toolchainName) = true :=
    isFile_iff.2 ⟨content, mode, (stat_congr hsame).symm.trans hstat⟩
  -- What was located ends the search of the host.
  have hthere := List.find?_some hlocated
  obtain ⟨content', mode', hstat'⟩ := isFile_iff.1 hthere
  have hends := Machine.Program.isEnd_candidate hname
    (hbegin _ (List.mem_of_find?_eq_some hlocated)) rfl hstat' (hseeks.loaded here hhere)
  obtain rfl := eq_of_find? hlocated hfound hends hisFile
  exact hsame.symm.trans hreach

end Host

end Bootstrap
