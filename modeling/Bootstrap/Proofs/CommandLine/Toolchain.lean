import Bootstrap.CommandLine.Run
import Bootstrap.Proofs.Archive.Inventory
import Bootstrap.Proofs.CommandLine.Shipping
import Bootstrap.Proofs.Pipeline.Schedule
import Bootstrap.Proofs.Process.Search

/-!
# The located toolchain

A run locates the toolchain once and then issues commands under its name:

    source       located as                     started as
    build        target/release/oftb            the same absolute path
    prebuilt     its absolute path              the same absolute path
    system       first file `oftb` of PATH      `oftb`

The absolute paths lead to the same place from everywhere.  A name is searched for once
more, by the host and from the root, so the two searches have to agree.  In every case the
archive holds what the located path leads to.

* `configOf_eq_ok` — what a configuration of the command line names by absolute paths;
* `located_toolchain_runs` — **the located toolchain is the one that runs** and is packed;
* `overlooked_toolchain` — a file that may not be run is located, but another one runs.
-/

namespace Bootstrap

open FileSystem

variable {σ : Type} {env : Environment} {runner : Runner σ} {cwd place : Location}
variable {c : Config} {fs fs' : FileSystem} {s s' : Session σ} {p root : Path}

/-- The turn is one of those that a task adds to a session. -/
def Turn.IssuedBy {α : Type} (t : Turn) (task : StageTask σ α) (cwd : Location) (s : Session σ) :
    Prop :=
  ∃ turns, (task.run cwd s).2.turns = s.turns ++ turns ∧ t ∈ turns

/-- What is issued by a task that follows a plan is part of the plan. -/
theorem Follows.call_mem {α : Type} {task : StageTask σ α} {plan : List Call} {t : Turn}
    (h : Follows task plan) (hissued : t.IssuedBy task cwd s) : t.call ∈ plan := by
  obtain ⟨turns, hturns, ht⟩ := hissued
  obtain ⟨turns', hturns', hends⟩ := h cwd s
  obtain rfl : turns = turns' := List.append_cancel_left (hturns.symm.trans hturns')
  have hmem : t.call ∈ turns.map Turn.call := List.mem_map_of_mem ht
  split at hends
  · rwa [hends.1] at hmem
  · exact hends.1.subset hmem

/-- What a task has issued is still there when another one goes on behind it. -/
theorem Turn.IssuedBy.bind {α β : Type} {task : StageTask σ α} {next : α → StageTask σ β}
    {t : Turn} (h : t.IssuedBy task cwd s) (plan : List Call) (hnext : ∀ a, Follows (next a) plan) :
    t.IssuedBy (task >>= next) cwd s := by
  obtain ⟨turns, hturns, ht⟩ := h
  unfold IssuedBy
  rw [Task.run_bind]
  rcases hrun : task.run cwd s with ⟨e | a, middle⟩ <;> rw [hrun] at hturns
  · exact ⟨turns, hturns, ht⟩
  · obtain ⟨more, hmore, _⟩ := hnext a cwd middle
    refine ⟨turns ++ more, ?_, List.mem_append_left _ ht⟩
    rw [← List.append_assoc, ← hturns]
    exact hmore

theorem StageTask.issuedBy_command (c : Config) (runner : Runner σ) (command : Command)
    (capture : Capture) (cwd : Location) (s : Session σ) :
    (runner.turn (command.invocation, capture) cwd s).IssuedBy
      (StageTask.command c runner command capture) cwd s := by
  obtain ⟨_, hrun, hturns, _⟩ := run_command c runner command capture cwd s
  refine ⟨_, ?_, List.mem_singleton_self _⟩
  rw [hrun]
  exact hturns

namespace Schedule

/-- The call is a command of the toolchain. -/
def IsToolchain (c : Config) (call : Call) : Prop :=
  ∃ arguments capture, call = toolchain c arguments capture

theorem isToolchain_selfTest {mode : SelfTestMode} {call : Call} (h : call ∈ selfTest c mode) :
    IsToolchain c call := by
  obtain ⟨case, _, hcall⟩ := List.mem_flatMap.1 h
  rcases List.mem_cons.1 hcall with rfl | hcall
  · exact ⟨_, _, rfl⟩
  · rw [List.mem_singleton.1 hcall]
    exact ⟨_, _, rfl⟩

theorem isToolchain_fixpoint {call : Call} (h : call ∈ fixpoint c) : IsToolchain c call := by
  unfold fixpoint at h
  rcases List.mem_cons.1 h with rfl | h
  · exact ⟨_, _, rfl⟩
  rcases List.mem_cons.1 h with rfl | h
  · exact ⟨_, _, rfl⟩
  rw [List.mem_singleton.1 h]
  exact ⟨_, _, rfl⟩

/-- **Behind the native build every command is one of the toolchain.** -/
theorem isToolchain_stages {call : Call} (h : call ∈ stages c) : IsToolchain c call := by
  unfold stages at h
  simp only [List.mem_append, List.mem_singleton, List.mem_map] at h
  rcases h with rfl | h | h | h | ⟨binary, _, rfl⟩
  · exact ⟨_, _, rfl⟩
  · exact isToolchain_selfTest h
  · exact isToolchain_fixpoint h
  · exact isToolchain_selfTest h
  · exact ⟨_, _, rfl⟩

end Schedule

/-! ### Locating -/

theorem ToolchainSource.locate_of_ne_system {source : ToolchainSource} (hsource : source ≠ .system)
    (h : source.locate fs cwd env = some p) :
    p = source.executable ∧ fs.isFile cwd p = true := by
  have hlocate : source.locate fs cwd env =
      if fs.isFile cwd source.executable then some source.executable else none := by
    cases source with
    | system => exact absurd rfl hsource
    | _ => rfl
  rw [hlocate] at h
  split at h
  · cases h
    exact ⟨rfl, ‹_›⟩
  · cases h

namespace Pipeline

/-- The end of a preparation looks at the files and changes nothing. -/
theorem run_locate {source : ToolchainSource} (h : (do
      match source.locate (← Task.files) (← Task.here) env with
      | some path => return path
      | none => Task.fail (.toolchainMissing source.executable) : StageTask σ Path).run cwd s =
        (.ok p, s')) :
    source.locate s'.files cwd env = some p ∧ s' = s := by
  obtain ⟨_, _, hfiles, h⟩ := Task.run_bind_eq_ok_iff.1 h
  cases hfiles
  obtain ⟨_, _, hhere, h⟩ := Task.run_bind_eq_ok_iff.1 h
  cases hhere
  split at h
  · rename_i hlocate
    cases h
    exact ⟨hlocate, rfl⟩
  · cases h

/-- A toolchain that is prepared is located on the files that are there then; without a build these
are the files that were there before. -/
theorem prepare_eq_ok (h : (prepare c env runner).run cwd s = (.ok p, s')) :
    c.toolchain.locate s'.files cwd env = some p ∧ (c.toolchain.needsBuild = false → s' = s) := by
  unfold prepare at h
  dsimp only at h
  split at h
  · rename_i directory htoolchain
    obtain ⟨_, s₁, _, h⟩ := Task.run_bind_eq_ok_iff.1 h
    obtain ⟨_, s₂, _, h⟩ := Task.run_bind_eq_ok_iff.1 h
    obtain ⟨_, s₃, _, h⟩ := Task.run_bind_eq_ok_iff.1 h
    obtain ⟨_, s₄, _, h⟩ := Task.run_bind_eq_ok_iff.1 h
    obtain ⟨hlocate, _⟩ := run_locate h
    refine ⟨hlocate, fun hbuild => ?_⟩
    rw [htoolchain] at hbuild
    cases hbuild
  · obtain ⟨hlocate, hsame⟩ := run_locate h
    exact ⟨hlocate, fun _ => hsame⟩

/-- A toolchain that is not built is prepared if it is located. -/
theorem prepare_of_locate (hbuild : c.toolchain.needsBuild = false)
    (h : c.toolchain.locate s.files cwd env = some p) :
    (prepare c env runner).run cwd s = (.ok p, s) := by
  unfold prepare
  dsimp only
  split
  · rename_i directory htoolchain
    rw [htoolchain] at hbuild
    cases hbuild
  · have hfiles : (Task.files : StageTask σ FileSystem).run cwd s = (.ok s.files, s) := rfl
    have hhere : (Task.here : StageTask σ Location).run cwd s = (.ok cwd, s) := rfl
    rw [Task.run_bind_of_ok hfiles, Task.run_bind_of_ok hhere, h]
    rfl

/-- The first command is issued however the run ends. -/
theorem run_issues_prelude (c : Config) (runner : Runner σ) (cwd : Location) (s : Session σ) :
    (runner.turn (Schedule.prelude c) cwd s).IssuedBy (run c runner) cwd s := by
  have hprelude : (runner.turn (Schedule.prelude c) cwd s).IssuedBy (generatePrelude c runner) cwd s := by
    -- The announcement in front of it is seen in the notes alone.
    have hcommand := StageTask.issuedBy_command c runner
      (c.selectedToolchain.run ⟨c.expander.package, c.preludeGenerator⟩ [c.standardLibrary.text])
      (.file c.preludeFile) cwd
      ((StageTask.announce StageTask.logSource .preludeGeneration [] : StageTask σ Unit).run cwd s).2
    exact hcommand.bind [] fun _ => (silent_pure _).follows
  refine hprelude.bind (Schedule.selfTest c .source ++ (Schedule.fixpoint c ++
    (Schedule.selfTest c .prebuilt ++ c.auxiliaries.map (Schedule.auxiliary c)))) fun _ => ?_
  refine (follows_selfTest c runner .source).bind fun _ => ?_
  refine (follows_verify c runner).bind fun _ => ?_
  refine (follows_selfTest c runner .prebuilt).bind fun _ => ?_
  refine (follows_compileAuxiliaries c runner).bind_silent fun _ => ?_
  exact Silent.bind (silent_log _ _ _ _) fun _ => silent_pure _

end Pipeline

namespace CommandLine

variable {r : Request}

/-- A file that is there has an absolute path. -/
theorem canonicalize_of_isFile (h : fs.isFile cwd p = true) :
    ∃ place, fs.canonicalize cwd p = .ok (pathOf place) := by
  obtain ⟨content, mode, hstat⟩ := isFile_iff.1 h
  obtain ⟨place, hreach, hentry⟩ := stat_eq_ok_iff.1 hstat
  obtain ⟨node, hnode, _⟩ := exists_plain_of_entryAt? hentry
  refine ⟨place, ?_⟩
  unfold canonicalize FileSystem.locate
  rw [hreach]
  simp [Bind.bind, Except.bind, hnode, Pure.pure, Except.pure, Functor.map, Except.map]

theorem isAbsolute_of_canonicalize {absolute : Path} (h : fs.canonicalize cwd p = .ok absolute) :
    absolute.isAbsolute = true := by
  unfold canonicalize at h
  cases hlocate : fs.locate cwd p with
  | error e =>
      rw [hlocate] at h
      cases h
  | ok place =>
      rw [hlocate] at h
      cases h
      exact Path.isAbsolute_pathOf place

/-- What is built is built in the root. -/
theorem directory_of_select {useSystem skipBuild : Bool} {explicit : Option Path} {directory : Path}
    (h : ToolchainSource.select env root useSystem explicit skipBuild = .build directory) :
    directory = root := by
  unfold ToolchainSource.select at h
  split at h
  · cases h
  · split at h
    · cases h
    · split at h
      · cases h
      · exact (ToolchainSource.build.inj h).symm

/-- The toolchain of a command line is an absolute path, a name to search for, or no file. -/
theorem toolchainOf_eq_ok {source : ToolchainSource} (hroot : root.isAbsolute = true)
    (h : (toolchainOf r env root).result cwd fs = (.ok source, fs')) :
    fs' = fs ∧ (source = .system ∨ source.executable.isAbsolute = true ∨
      source.needsBuild = false ∧ fs.isFile cwd source.executable = false) := by
  have hrelease : (ToolchainSource.releaseExecutable root).isAbsolute = true := by
    unfold ToolchainSource.releaseExecutable Path.push
    rw [Path.isAbsolute_join, Path.isAbsolute_join, Path.isAbsolute_join, hroot]
    rfl
  unfold toolchainOf at h
  split at h
  · rename_i path _
    obtain ⟨attempt, middle, hattempt, h⟩ := FileOp.result_bind_eq_ok_iff.1 h
    rw [FileOp.result_attempt, resolved, FileOp.result_look] at hattempt
    cases hattempt
    cases hcanonical : fs.canonicalize cwd path with
    | ok absolute =>
        rw [hcanonical] at h
        cases h
        exact ⟨rfl, .inr (.inl (isAbsolute_of_canonicalize hcanonical))⟩
    | error e =>
        rw [hcanonical] at h
        cases h
        have hmissing : fs.isFile cwd path = false := by
          rw [Bool.eq_false_iff]
          intro hfile
          obtain ⟨place, hplace⟩ := canonicalize_of_isFile hfile
          rw [hplace] at hcanonical
          cases hcanonical
        exact ⟨rfl, .inr (.inr ⟨rfl, hmissing⟩)⟩
  · rename_i hprebuilt
    cases h
    refine ⟨rfl, ?_⟩
    cases hselect : ToolchainSource.select env root (r.has .useSystemToolchain) (r.path? .toolchain)
        (r.has .noToolchainBuild) with
    | system => exact .inl rfl
    | build directory =>
        obtain rfl := directory_of_select hselect
        exact .inr (.inl hrelease)
    | prebuilt path => exact (hprebuilt path hselect).elim

/-- What a path is resolved to is absolute. -/
theorem resolved_eq_ok {f : IoError → Failure} {absolute : Path}
    (h : (FileOp.mapError f (resolved p)).result cwd fs = (.ok absolute, fs')) :
    fs' = fs ∧ absolute.isAbsolute = true := by
  rw [FileOp.result_mapError, resolved, FileOp.result_look] at h
  cases hcanonical : fs.canonicalize cwd p with
  | error e =>
      rw [hcanonical] at h
      cases h
  | ok found =>
      rw [hcanonical] at h
      cases h
      exact ⟨rfl, isAbsolute_of_canonicalize hcanonical⟩

/-- The root is the absolute path of a place. -/
theorem rootOf_eq_ok (h : (rootOf r env).result cwd fs = (.ok root, fs')) :
    fs' = fs ∧ root.isAbsolute = true := by
  have hdefault : (Config.defaultRoot env).Looks := by
    unfold Config.defaultRoot
    split
    · exact FileOp.looks_pure _
    · exact FileOp.looks_look _
  unfold rootOf at h
  split at h
  · obtain ⟨asked, middle, hasked, h⟩ := FileOp.result_bind_eq_ok_iff.1 h
    cases hasked
    exact resolved_eq_ok h
  · obtain ⟨asked, middle, hasked, h⟩ := FileOp.result_bind_eq_ok_iff.1 h
    have hlooks := hdefault cwd fs
    rw [FileOp.result_mapError] at hasked
    obtain ⟨_, rfl⟩ := Prod.mk.inj hasked
    rw [hlooks] at h
    exact resolved_eq_ok h

/-- **What a command line names by absolute paths**: the root, and a toolchain that is not searched for
and is there. -/
theorem configOf_eq_ok (h : (configOf r env).result cwd fs = (.ok c, fs')) :
    fs' = fs ∧ c.root.isAbsolute = true ∧
      (c.toolchain = .system ∨ c.toolchain.executable.isAbsolute = true ∨
        c.toolchain.needsBuild = false ∧ fs.isFile cwd c.toolchain.executable = false) := by
  unfold configOf at h
  obtain ⟨root, fs₁, hrootOf, h⟩ := FileOp.result_bind_eq_ok_iff.1 h
  obtain ⟨source, fs₂, hsource, h⟩ := FileOp.result_bind_eq_ok_iff.1 h
  cases h
  obtain ⟨rfl, hroot⟩ := rootOf_eq_ok hrootOf
  obtain ⟨rfl, htoolchain⟩ := toolchainOf_eq_ok hroot hsource
  exact ⟨rfl, hroot, htoolchain⟩

/-! ### Starting and packing -/

/-- The turn belongs to what is done with a prepared toolchain: all stages, the fixpoint alone, or one
self-test. -/
inductive BehindPreparation (c : Config) (runner : Runner σ) (cwd : Location) (s : Session σ)
    (t : Turn) : Prop where
  | stages (h : t.IssuedBy (Pipeline.run c runner) cwd s)
  | fixpoint (h : t.IssuedBy (Fixpoint.verify c runner) cwd s)
  | selfTest (mode : SelfTestMode) (h : t.IssuedBy (SelfTest.run c runner mode) cwd s)

theorem BehindPreparation.isToolchain {t : Turn} (h : BehindPreparation c runner cwd s t) :
    Schedule.IsToolchain c t.call := by
  cases h with
  | stages h => exact Schedule.isToolchain_stages ((follows_run c runner).call_mem h)
  | fixpoint h => exact Schedule.isToolchain_fixpoint ((follows_verify c runner).call_mem h)
  | selfTest mode h => exact Schedule.isToolchain_selfTest ((follows_selfTest c runner mode).call_mem h)

/-- **One toolchain**: what is located as `p` is what runs and what is packed. -/
structure OneToolchain (c : Config) (env : Environment) (runner : Runner σ) (cwd : Location)
    (s s' : Session σ) (p : Path) : Prop where
  /-- Whatever the files have become, the file that a host starts is what `p` leads to; for a
  toolchain that is searched for, something has to bring the host there. -/
  started : ∀ t, BehindPreparation c runner cwd s' t → ∀ now sink run,
    Host.inWorld env t.call.1 sink cwd now = .ok run →
      (c.toolchain = .system → Host.Seeks env t.call.1 cwd now p) →
        ∃ place, Host.started? env t.call.1 cwd now = some place ∧ now.reach cwd p = .ok place
  /-- The archive of a bootstrap begins with what `p` leads to when all stages have ended. -/
  packed : ∀ (setting : Setting) output after, setting.config = c → setting.environment = env →
    (setting.bootstrap runner true output).run cwd s = (.ok (), after) →
    (∀ archive, after.files.read cwd (ArchiveSpec.ofConfig c p output).output = .ok archive →
      archive.length < 2 ^ 64) →
    ∃ report ended content mode program others,
      (Pipeline.run c runner).run cwd s' = (.ok report, ended) ∧
      ended.files.stat cwd p = .ok (.file content mode) ∧
      (Entry.file content mode).listed? (Text.Utf8.encode Layout.toolchainName) = some program ∧
      (ArchiveSpec.ofConfig c p output).ReadsAs cwd after.files (program :: others)

/-- A command of the toolchain starts what was located. -/
theorem started_as_located {call : Call} (hcall : Schedule.IsToolchain c call)
    (hlocate : c.toolchain.locate fs cwd env = some p)
    (habsolute : c.toolchain = .system ∨ c.toolchain.executable.isAbsolute = true)
    {now : FileSystem} (hstarted : Host.started? env call.1 cwd now = some place)
    (hseeks : c.toolchain = .system → Host.Seeks env call.1 cwd now p) :
    now.reach cwd p = .ok place := by
  have hprogram : call.1.program = c.toolchain.executable := by
    obtain ⟨arguments, capture, rfl⟩ := hcall
    rfl
  by_cases hsystem : c.toolchain = .system
  · have hname : c.toolchain.executable = ⟨Layout.toolchainName⟩ := by rw [hsystem]; rfl
    exact Host.started?_of_located (hseeks hsystem) (hprogram.trans hname) hstarted
  · obtain ⟨rfl, _⟩ := ToolchainSource.locate_of_ne_system hsystem hlocate
    have hfixed := habsolute.resolve_left hsystem
    rw [← hprogram] at hfixed ⊢
    exact Host.started?_of_absolute hfixed hstarted

/-- The archive of a bootstrap begins with the toolchain that was prepared. -/
theorem packed_as_located {setting : Setting} {output : Option Path} {after : Session σ}
    (hprepare : (Pipeline.prepare setting.config setting.environment runner).run cwd s = (.ok p, s'))
    (h : (setting.bootstrap runner true output).run cwd s = (.ok (), after))
    (hsize : ∀ archive,
      after.files.read cwd (ArchiveSpec.ofConfig setting.config p output).output = .ok archive →
        archive.length < 2 ^ 64) :
    ∃ report ended content mode program others,
      (Pipeline.run setting.config runner).run cwd s' = (.ok report, ended) ∧
      ended.files.stat cwd p = .ok (.file content mode) ∧
      (Entry.file content mode).listed? (Text.Utf8.encode Layout.toolchainName) = some program ∧
      (ArchiveSpec.ofConfig setting.config p output).ReadsAs cwd after.files (program :: others) := by
  obtain ⟨executable, report, packed, ended, s₂, hcomplete, hmake, _, hfiles, _⟩ :=
    Setting.bootstrap_eq_ok h
  unfold Pipeline.complete at hcomplete
  obtain ⟨p', s₁, hprepare', hrest⟩ := Task.run_bind_eq_ok_iff.1 hcomplete
  cases hprepare.symm.trans hprepare'
  obtain ⟨report', ended', hrun, hpair⟩ := Task.run_bind_eq_ok_iff.1 hrest
  cases hpair
  obtain ⟨_, _, _, _, _, _, _, _, _, program, _, members, _, hpacked, _, hbytes⟩ :=
    ArchiveSpec.make_eq_ok_report hmake
  rw [hfiles] at hsize ⊢
  obtain ⟨content, mode, hstat, hlisted⟩ := hpacked.lists_program
  have hsmall := hsize _ hpacked.readable
  rw [← hbytes] at hsmall
  exact ⟨report, ended, content, mode, program.listed, members.map Tar.Member.listed, hrun, hstat,
    hlisted, hpacked.readsAs hbytes hsmall⟩

/-- **The located toolchain is the one that runs**, and the one that is packed. -/
theorem located_toolchain_runs (hconfig : (configOf r env).result cwd fs = (.ok c, fs'))
    (hfiles : s.files = fs')
    (hprepare : (Pipeline.prepare c env runner).run cwd s = (.ok p, s')) :
    OneToolchain c env runner cwd s s' p where
  started := by
    intro t ht now sink run hrun hseeks
    obtain ⟨rfl, _, htoolchain⟩ := configOf_eq_ok hconfig
    obtain ⟨hlocate, hsame⟩ := Pipeline.prepare_eq_ok hprepare
    obtain ⟨place, hstarted⟩ := Host.exists_started? hrun
    refine ⟨place, hstarted, started_as_located ht.isToolchain hlocate ?_ hstarted hseeks⟩
    rcases htoolchain with hsystem | habsolute | ⟨hbuild, hmissing⟩
    · exact .inl hsystem
    · exact .inr habsolute
    · -- A given file that was not there is not located either.
      refine .inl (Classical.byContradiction fun hsystem => ?_)
      obtain ⟨rfl, hfile⟩ := ToolchainSource.locate_of_ne_system hsystem hlocate
      rw [hsame hbuild, hfiles, hmissing] at hfile
      cases hfile
  packed := by
    rintro setting output after rfl rfl h hsize
    exact packed_as_located hprepare h hsize

/-! ### A toolchain on the search path -/

/-- Two files with the name of the toolchain.  The one in `a` may not be run. -/
def searchedFiles : FileSystem where
  nodes := [(["a"], .directory 0o755 0), (["a", "oftb"], .file 0), (["b"], .directory 0o755 0),
    (["b", "oftb"], .file 1)]
  files := [(0, ⟨[], 0o644, 0⟩), (1, ⟨Machine.Executable.content "true", 0o755, 0⟩)]
  now := 0

/-- The toolchain is searched for, and the root is the root directory. -/
def searchingRequest : Request where
  command := none
  outer := [(.root, "/"), (.useSystemToolchain, "")]
  inner := []

/-- What is asked for. -/
def searchingConfig : Config :=
  { Config.standard ⟨"/"⟩ with toolchain := .system }

/-- A search path alone. -/
def searchedIn (path : String) : Environment := ⟨[("PATH", path)]⟩

theorem searchingConfig_eq (path : String) :
    (configOf searchingRequest (searchedIn path)).result [] searchedFiles =
      (.ok searchingConfig, searchedFiles) := by
  rfl

theorem prepare_searching {path : String} (runner : Runner Unit)
    (h : ToolchainSource.system.locate searchedFiles [] (searchedIn path) = some p) :
    (Pipeline.prepare searchingConfig (searchedIn path) runner).run []
        (Session.start searchedFiles ()) = (.ok p, Session.start searchedFiles ()) := by
  apply Pipeline.prepare_of_locate
  · rfl
  · exact h

/-- **Not every located toolchain runs.**  The first file of that name may not be run, so the one behind
it is started. -/
theorem overlooked_toolchain :
    ¬ ∀ (r : Request) env cwd fs c (s s' : Session Unit) p,
      (configOf r env).result cwd fs = (.ok c, fs) → s.files = fs →
      (Pipeline.prepare c env (Host.inWorld env).runner).run cwd s = (.ok p, s') →
      ∀ t, BehindPreparation c (Host.inWorld env).runner cwd s' t → ∀ place,
        Host.started? env t.call.1 cwd t.before = some place → t.before.reach cwd p = .ok place := by
  intro hall
  have hlocated : ToolchainSource.system.locate searchedFiles [] (searchedIn "/a:/b") =
      some ⟨"/a/oftb"⟩ := by decide +kernel
  have hstarted : Host.started? (searchedIn "/a:/b") (Schedule.prelude searchingConfig).1 []
      searchedFiles = some ["b", "oftb"] := by decide +kernel
  have hreached : (searchedFiles.reach [] ⟨"/a/oftb"⟩).toOption = some ["a", "oftb"] := by
    decide +kernel
  have hissued := Pipeline.run_issues_prelude searchingConfig
    (Host.inWorld (searchedIn "/a:/b")).runner [] (Session.start searchedFiles ())
  have hreach := hall _ _ _ _ _ _ _ _ (searchingConfig_eq _) rfl
    (prepare_searching _ hlocated) _ (.stages hissued) _ hstarted
  have heq : searchedFiles.reach [] ⟨"/a/oftb"⟩ = .ok ["b", "oftb"] := hreach
  rw [heq] at hreached
  revert hreached
  decide

/-- A located toolchain that may be run is the one that runs, first for the prelude. -/
theorem searched_toolchain_runs :
    OneToolchain searchingConfig (searchedIn "/b:/a") (Host.inWorld (searchedIn "/b:/a")).runner []
        (Session.start searchedFiles ()) (Session.start searchedFiles ()) ⟨"/b/oftb"⟩ ∧
      Host.started? (searchedIn "/b:/a") (Schedule.prelude searchingConfig).1 [] searchedFiles =
        some ["b", "oftb"] ∧
      searchedFiles.reach [] ⟨"/b/oftb"⟩ = .ok ["b", "oftb"] := by
  have hlocated : ToolchainSource.system.locate searchedFiles [] (searchedIn "/b:/a") =
      some ⟨"/b/oftb"⟩ := by decide +kernel
  have hone := located_toolchain_runs (searchingConfig_eq "/b:/a") rfl
    (prepare_searching (Host.inWorld (searchedIn "/b:/a")).runner hlocated)
  have hplace : Host.started? (searchedIn "/b:/a") (Schedule.prelude searchingConfig).1 []
      searchedFiles = some ["b", "oftb"] := by decide +kernel
  have hhere : World.startDirectory searchedFiles [] (Schedule.prelude searchingConfig).1.directory =
      .ok [] := eq_ok_of_toOption (by decide +kernel)
  have hseeks : Host.Seeks (searchedIn "/b:/a") (Schedule.prelude searchingConfig).1 [] searchedFiles
      ⟨"/b/oftb"⟩ := by
    constructor
    · exact hlocated
    · intro here hstart
      cases hhere.symm.trans hstart
      decide +kernel
    · intro here hstart
      cases hhere.symm.trans hstart
      exact .inl rfl
  obtain ⟨run, hrun⟩ := exists_of_isOk (show (Host.inWorld (searchedIn "/b:/a")
    (Schedule.prelude searchingConfig).1 .collected [] searchedFiles).isOk = true by decide +kernel)
  obtain ⟨place, hstarted, hreach⟩ := hone.started _ (.stages (Pipeline.run_issues_prelude _ _ _ _))
    searchedFiles .collected run hrun fun _ => hseeks
  cases hplace.symm.trans hstarted
  exact ⟨hone, hplace, hreach⟩

end CommandLine

end Bootstrap
