import Bootstrap.Proofs.Pipeline.Freshness

/-!
# What a report names is there

A run that succeeds reports the prelude, the promoted artifact and the auxiliary artifacts.
Each was found or put in place at some moment of the run, and stays there as long as no
output takes the place of a link to a directory on the way.

* `Session.Advances.namesFile` — a path still names a file;
* `Fixpoint.namesFile_of_verify` — a file that outlasts the fixpoint stage;
* `Delivered` — what the files of a report are in the end;
* `run_fresh_and_delivered` — **a run executes nothing stale and delivers what it reports**.
-/

namespace Bootstrap

open FileSystem

variable {cwd : Location} {c : Config} {host : Host} {s s' : Session Unit} {p : Path}

/-- A path that names a file still names one. -/
theorem Session.Advances.namesFile {new : List Turn} (h : Session.Advances c host cwd new s s')
    (hnew : ∀ t ∈ new, ¬ t.Diverts cwd) (hfile : s.files.NamesFile cwd p) :
    s'.files.NamesFile cwd p := by
  obtain ⟨parent, name, hnamed, hshort, hholds⟩ := hfile
  exact ⟨parent, name, h.names hnew _ _ _ hnamed, hshort, h.holds _ hholds⟩

theorem Session.Ready.namesFile (h : s.Ready c host cwd p) : s.files.NamesFile cwd p := by
  obtain ⟨parent, name, hnamed, hshort, hfresh⟩ := h
  exact ⟨parent, name, hnamed, hshort, hfresh.holdsFile⟩

/-! ### The prelude -/

/-- What was generated is the entry that the prelude's path names, once it is found again. -/
theorem Pipeline.namesFile_prelude (hhost : host.Sparing c) {s₁ : Session Unit} {new : List Turn}
    (h : (generatePrelude c host.runner).run cwd s = (.ok p, s₁))
    (hadvances : Session.Advances c host cwd new s₁ s')
    (hfile : s'.files.isFile cwd c.preludeFile = true) :
    s'.files.NamesFile cwd c.preludeFile := by
  unfold generatePrelude at h
  obtain ⟨_, s₂, hannounce, hrest⟩ := Task.run_bind_eq_ok_iff.1 h
  obtain ⟨o, s₃, hcommand, hend⟩ := Task.run_bind_eq_ok_iff.1 hrest
  cases hend
  obtain ⟨after, hrun, hturns, hfiles⟩ := StageTask.run_command c host.runner
    (c.selectedToolchain.run ⟨c.expander.package, c.preludeGenerator⟩ [c.standardLibrary.text])
    (.file c.preludeFile) cwd s₂
  obtain ⟨hresult, rfl⟩ := Prod.mk.inj (hrun.symm.trans hcommand)
  have hok := FileOp.mapError_eq_ok_iff.1 hresult
  rcases Host.turn_redirected_cases (hhost.run _ _) rfl with
    ⟨hfailed, _⟩ | ⟨output, parent, name, _, _, hplaced⟩
  · exact (hfailed ⟨_, hok⟩).elim
  rw [← hfiles] at hplaced
  obtain ⟨_, _, hstat⟩ := isFile_iff.1 hfile
  obtain ⟨place, hreach, _⟩ := stat_eq_ok_iff.1 hstat
  obtain ⟨_, _, first, hends, _⟩ := names_iff.1 hplaced.named
  obtain ⟨parent', _, hnamed', _⟩ := names_of_reach hends hreach
  obtain ⟨rfl, _⟩ := hplaced.named.agree hnamed' (hplaced.grown.trans hadvances.grown)
  have hentry := hplaced.replaced.entryAt? (parent' ++ [name])
  rw [if_pos rfl] at hentry
  exact ⟨_, name, hnamed', hplaced.short, hadvances.holds _ ⟨_, _, hentry⟩⟩

/-- A file that stood beside the expander's artifact, or as the artifact, is there when a new one has
been written. -/
theorem namesFile_of_written {fs made after : FileSystem} {q : Path} {parent : Location}
    {name : String} {content : Bytes} {mode : Nat} (hmade : Furnished fs made)
    (hwritten : Written made after cwd q parent name content mode)
    (h : fs.NamesFile cwd p ∨ ∃ up last, fs.Names cwd p up last ∧ fs.Names cwd q up last) :
    after.NamesFile cwd p := by
  rcases h with ⟨up, last, hnamed, hshort, content', mode', hentry⟩ | ⟨up, last, hnamed, hother⟩
  · have hentry' := hmade.keptAt _ _ hentry
    have hne : up ++ [last] ≠ parent ++ [name] := by
      intro heq
      obtain ⟨node, hnode, _⟩ := nodeAt?_of_entryAt? hentry'
      rw [heq, hwritten.free] at hnode
      cases hnode
    exact ⟨up, last, hwritten.names (hmade.kept.names hnamed), hshort, content', mode',
      hwritten.keptAt hne _ hentry'⟩
  · obtain ⟨rfl, rfl⟩ := (hmade.kept.names hother).unique hwritten.named
    exact ⟨_, _, hwritten.names (hmade.kept.names hnamed), hwritten.short, _, _, hwritten.new⟩

namespace Fixpoint

/-- The discard takes one entry away. -/
theorem namesFile_of_discard {fs : FileSystem} {artifact : Artifact}
    (h : artifact.discard.result cwd s.files = (.ok (), fs))
    (hblunt : ∀ parent name, s.files.Names cwd artifact.path parent name →
      s.files.Blunt parent name)
    (hfile : s.files.NamesFile cwd p) :
    fs.NamesFile cwd p ∨ ∃ up last, fs.Names cwd p up last ∧ fs.Names cwd artifact.path up last := by
  obtain ⟨up, last, hnamed, hshort, content, mode, hentry⟩ := hfile
  obtain ⟨_, rfl | ⟨parent, name, hartifact, _, rfl⟩⟩ := Artifact.discard_eq_ok h
  · exact .inl ⟨up, last, hnamed, hshort, content, mode, hentry⟩
  have hkept : ∀ {q up last}, s.files.Names cwd q up last →
      (s.files.erase (parent ++ [name])).Names cwd q up last := by
    intro q up last hq
    refine hq.keep (· = parent ++ [name]) ?_ ?_
    · intro up' last' hplace
      obtain ⟨rfl, rfl⟩ := List.append_singleton_inj.1 hplace
      exact hblunt _ _ hartifact
    · intro place hplace
      refine alikeAt_of_eq ?_
      rw [nodeAt?_erase _ (by simp), if_neg hplace]
  by_cases hplace : up ++ [last] = parent ++ [name]
  · obtain ⟨rfl, rfl⟩ := List.append_singleton_inj.1 hplace
    exact .inr ⟨_, _, hkept hnamed, hkept hartifact⟩
  · refine .inl ⟨up, last, hkept hnamed, hshort, content, mode, ?_⟩
    rw [entryAt?_erase _ (by simp), if_neg hplace, hentry]

/-- A stage that succeeded has required the prelude and made three turns. -/
theorem compiled_of_verify {report : FixpointReport} {t₁ t₂ t₃ : Turn}
    (h : (verify c host.runner).run cwd s = (.ok report, s'))
    (hturns : s'.turns = s.turns ++ [t₁, t₂, t₃]) : Compiled c cwd s s' t₁ t₂ t₃ := by
  have hends := verify_ends c host.runner cwd s
  rw [h] at hends
  cases hends with
  | promoted hcompiled _ _ =>
    obtain ⟨rfl, rfl, rfl⟩ := hcompiled.turn_eq hturns
    exact hcompiled

/-- A self-compilation that succeeded has made one turn, and commands advance. -/
theorem advances_selfCompile (hhost : host.Sparing c) {compiler output : Artifact}
    (hp : output.path ∈ c.outputs)
    (h : (selfCompile c host.runner compiler output).run cwd s = (.ok (), s')) :
    ∃ t, t.call = selfCall c compiler output ∧ s'.files = t.after ∧
      Session.Advances c host cwd [t] s s' := by
  obtain ⟨hturns, hfiles, _⟩ := selfCompile_eq_ok h
  obtain ⟨new, hadvances⟩ :=
    (within_selfCompile commandClosed_advances hhost compiler hp).of_run h
  obtain rfl := List.append_cancel_left (hadvances.turns.symm.trans hturns)
  exact ⟨_, rfl, hfiles, hadvances⟩

/-- **A file outlasts the fixpoint stage** if it is none of the generations and no link to a directory
gives way. -/
theorem namesFile_of_verify (hhost : host.Sparing c) {report : FixpointReport} {t₁ : Turn}
    {rest : List Turn} (h : (verify c host.runner).run cwd s = (.ok report, s'))
    (hturns : s'.turns = s.turns ++ t₁ :: rest) (hfile : s.files.NamesFile cwd p)
    (hblunt : ∀ parent name, s.files.Names cwd (first c).path parent name →
      s.files.Blunt parent name)
    (hstraight : ∀ t ∈ rest, ¬ t.Diverts cwd)
    (hapart : ∀ t ∈ rest, t.call = selfCall c (second c) (third c) →
      t.after.namedPlace? cwd p ≠ t.after.namedPlace? cwd (second c).path ∧
        t.after.namedPlace? cwd p ≠ t.after.namedPlace? cwd (third c).path) :
    s'.files.NamesFile cwd p := by
  have hends := verify_ends c host.runner cwd s
  rw [h] at hends
  obtain ⟨s₁, s₂, s₃, s₄, hfiles₁, hturns₁, hnative, hsecond, hthird, hturns₄⟩ := verify_cut h
  obtain ⟨fs, made, _, _, _, _, u₁, hdiscard, hmade, hwritten, _, _, _, hturns₂⟩ :=
    nativeCompile_eq_ok hhost hnative
  obtain ⟨u₂, _, _, hadvances₂⟩ := advances_selfCompile hhost c.second_mem_outputs hsecond
  obtain ⟨u₃, hcall₃, hfiles₄, hadvances₃⟩ :=
    advances_selfCompile hhost c.third_mem_outputs hthird
  have hall : s'.turns = s.turns ++ [u₁, u₂, u₃] := by
    rw [hturns₄, hadvances₃.turns, hadvances₂.turns, hturns₂, hturns₁]
    simp
  obtain ⟨rfl, rfl⟩ := List.cons.inj (List.append_cancel_left (hall.symm.trans hturns))
  -- The native compilation leaves the file or writes it, and the others leave it.
  rw [← hfiles₁] at hfile hblunt
  have hfile₂ := namesFile_of_written hmade hwritten (namesFile_of_discard hdiscard hblunt hfile)
  have hfile₃ := hadvances₂.namesFile (fun t ht => hstraight t (by simp_all)) hfile₂
  have hfile₄ := hadvances₃.namesFile (fun t ht => hstraight t (by simp_all)) hfile₃
  rw [hfiles₄] at hfile₄
  obtain ⟨up, last, hnamed, hshort, content, mode, hentry⟩ := hfile₄
  -- The promotion replaces the first artifact and removes the other two.
  cases hends with
  | @promoted _ _ _ _ _ _ parent n₁ n₂ n₃ hcompiled _ hpromoted =>
    obtain ⟨_, _, rfl⟩ := hcompiled.turn_eq hall
    obtain ⟨hsecond', hthird'⟩ := hapart _ (by simp) hcall₃
    obtain ⟨hstanding, ⟨_, _, hsettled⟩, hnames⟩ := hpromoted
    rw [hnamed.namedPlace?, hstanding.second.named.namedPlace?] at hsecond'
    rw [hnamed.namedPlace?, hstanding.third.named.namedPlace?] at hthird'
    refine ⟨up, last, hnames _ _ _ hnamed, hshort, ?_⟩
    by_cases hplace : up ++ [last] = parent ++ [n₁]
    · exact ⟨_, _, hplace ▸ hsettled.new⟩
    · refine ⟨content, mode, ?_⟩
      rw [hsettled.frame _ hplace (fun heq => hsecond' (congrArg some heq))
        (fun heq => hthird' (congrArg some heq)), hentry]

end Fixpoint

/-! ### The auxiliary artifacts -/

namespace Pipeline

/-- The artifact of an auxiliary entry point, as a report names it. -/
def auxiliaryPath (c : Config) (binary : String) : Path :=
  (c.store.artifact ⟨c.expander.package, binary⟩).relative

theorem compileAuxiliary_eq_ok (hhost : host.Sparing c) {binary : String}
    (h : (compileAuxiliary c host.runner binary).run cwd s = (.ok p, s')) :
    p = auxiliaryPath c binary ∧ s'.Ready c host cwd (c.root.join p) := by
  obtain ⟨rfl, hfile, _, hcommand⟩ := compileAuxiliary_cut c host.runner h
  have hready : s'.Ready c host cwd (c.store.artifact ⟨c.expander.package, binary⟩).path :=
    StageTask.ready_of_redirected (hhost.interpret _ _) hcommand hfile
  exact ⟨rfl, hready⟩

/-- Each auxiliary artifact was required, and those behind it have removed nothing. -/
theorem compileEach_eq_ok (hhost : host.Sparing c) {binaries : List String} {paths : List Path}
    (hbinaries : binaries ⊆ c.auxiliaries)
    (h : (compileEach c host.runner binaries).run cwd s = (.ok paths, s')) :
    ∃ new, Session.Advances c host cwd new s s' ∧ (∀ t ∈ new, t.IsAuxiliary c) ∧
      paths = binaries.map (auxiliaryPath c) ∧
      ((∀ t ∈ new, ¬ t.Diverts cwd) → ∀ p ∈ paths, s'.files.NamesFile cwd (c.root.join p)) := by
  induction binaries generalizing s paths with
  | nil =>
      cases h
      exact ⟨[], .of_eq rfl rfl, by simp, rfl, by simp⟩
  | cons binary rest ih =>
      obtain ⟨hbinary, hrest⟩ := List.cons_subset.1 hbinaries
      unfold compileEach at h
      obtain ⟨p, s₁, hfirst, hmore⟩ := Task.run_bind_eq_ok_iff.1 h
      obtain ⟨more, s₂, hothers, hend⟩ := Task.run_bind_eq_ok_iff.1 hmore
      cases hend
      obtain ⟨rfl, hready⟩ := compileAuxiliary_eq_ok hhost hfirst
      obtain ⟨new₁, hadvances₁, hnew₁⟩ := auxiliarySince_compileAuxiliary hhost hbinary hfirst
      obtain ⟨new₂, hadvances₂, hnew₂, hpaths, hfiles⟩ := ih hrest hothers
      refine ⟨new₁ ++ new₂, hadvances₁.trans hadvances₂, fun t ht => ?_, by rw [hpaths]; rfl,
        fun hstraight p hp => ?_⟩
      · rcases List.mem_append.1 ht with hmem | hmem
        · exact hnew₁ t hmem
        · exact hnew₂ t hmem
      · have hstraight₂ : ∀ t ∈ new₂, ¬ t.Diverts cwd :=
          fun t ht => hstraight t (List.mem_append_right _ ht)
        rcases List.mem_cons.1 hp with rfl | hmem
        · exact hadvances₂.namesFile hstraight₂ hready.namesFile
        · exact hfiles hstraight₂ p hmem

/-- The expander was required before the auxiliary compilations. -/
theorem compileAuxiliaries_eq_ok (hhost : host.Sparing c) {paths : List Path}
    (hpromoted : s.Promoted c host cwd)
    (h : (compileAuxiliaries c host.runner).run cwd s = (.ok paths, s')) :
    ∃ new, Session.Advances c host cwd new s s' ∧ (∀ t ∈ new, t.IsAuxiliary c) ∧
      paths = c.auxiliaries.map (auxiliaryPath c) ∧
      ((∀ t ∈ new, ¬ t.Diverts cwd) →
        ∀ p ∈ (Fixpoint.first c).relative :: paths, s'.files.NamesFile cwd (c.root.join p)) := by
  obtain ⟨s₁, hsame, hturns, hfile, heach⟩ := compileAuxiliaries_cut c host.runner h
  have hbegin : Session.Advances c host cwd [] s s₁ := .of_eq hsame hturns
  have hready := (hpromoted.advances ⟨_, hbegin⟩).ready_of_isFile hfile
  obtain ⟨new, hadvances, hnew, hpaths, hfiles⟩ :=
    compileEach_eq_ok hhost (List.Subset.refl _) heach
  refine ⟨new, hbegin.trans hadvances, hnew, hpaths, fun hstraight p hp => ?_⟩
  rcases List.mem_cons.1 hp with rfl | hmem
  · exact hadvances.namesFile hstraight hready.namesFile
  · exact hfiles hstraight p hmem

end Pipeline

/-! ### The report -/

/-- **No link to a directory has given way since the prelude was required**, neither to the discard of
the expander's artifact nor to an output, and the prelude is none of the removed generations. -/
structure Undisturbed (c : Config) (cwd : Location) (fs : FileSystem) (turns : List Turn) : Prop where
  discard : ∀ front t rest, turns = front ++ t :: rest → t.call = Fixpoint.nativeCall c →
    ∀ parent name, (Session.leftBy fs front).Names cwd (Fixpoint.first c).path parent name →
      (Session.leftBy fs front).Blunt parent name
  outputs : ∀ front t rest, turns = front ++ t :: rest → t.call = Fixpoint.nativeCall c →
    ∀ u ∈ rest, ¬ u.Diverts cwd
  apart : ∀ t ∈ turns, t.call = Fixpoint.selfCall c (Fixpoint.second c) (Fixpoint.third c) →
    t.after.namedPlace? cwd c.preludeFile ≠ t.after.namedPlace? cwd (Fixpoint.second c).path ∧
      t.after.namedPlace? cwd c.preludeFile ≠ t.after.namedPlace? cwd (Fixpoint.third c).path

/-- **What a report names is there**: the promoted artifact and the auxiliary artifacts unless the
output of an auxiliary compilation took the place of a link to a directory, and the prelude if it was
undisturbed. -/
structure Delivered (c : Config) (cwd : Location) (fs fs' : FileSystem) (turns : List Turn)
    (report : BootstrapReport) : Prop where
  prelude : report.prelude = c.preludePath
  promoted : report.fixpoint.promoted = (Fixpoint.first c).relative
  auxiliaries : report.auxiliaries = c.auxiliaries.map (Pipeline.auxiliaryPath c)
  artifacts : (∀ t ∈ turns, t.IsAuxiliary c → ¬ t.Diverts cwd) →
    ∀ p ∈ report.fixpoint.promoted :: report.auxiliaries, fs'.isFile cwd (c.root.join p) = true
  generated : Undisturbed c cwd fs turns → fs'.isFile cwd (c.root.join report.prelude) = true

namespace Pipeline

/-- A run that succeeded, cut between its stages. -/
theorem run_eq_ok {report : BootstrapReport}
    (h : (run c host.runner).run cwd s = (.ok report, s')) :
    ∃ prelude fromSource prebuilt s₁ s₂ s₃ s₄ s₅,
      (generatePrelude c host.runner).run cwd s = (.ok prelude, s₁) ∧
      (SelfTest.run c host.runner .source).run cwd s₁ = (.ok fromSource, s₂) ∧
      (Fixpoint.verify c host.runner).run cwd s₂ = (.ok report.fixpoint, s₃) ∧
      (SelfTest.run c host.runner .prebuilt).run cwd s₃ = (.ok prebuilt, s₄) ∧
      (compileAuxiliaries c host.runner).run cwd s₄ = (.ok report.auxiliaries, s₅) ∧
      report.prelude = prelude ∧ s'.files = s₅.files ∧ s'.turns = s₅.turns := by
  unfold run at h
  obtain ⟨prelude, s₁, hprelude, h⟩ := Task.run_bind_eq_ok_iff.1 h
  obtain ⟨fromSource, s₂, hsource, h⟩ := Task.run_bind_eq_ok_iff.1 h
  obtain ⟨fixpoint, s₃, hverify, h⟩ := Task.run_bind_eq_ok_iff.1 h
  obtain ⟨prebuilt, s₄, htest, h⟩ := Task.run_bind_eq_ok_iff.1 h
  obtain ⟨auxiliaries, s₅, hcompile, h⟩ := Task.run_bind_eq_ok_iff.1 h
  cases h
  exact ⟨prelude, fromSource, prebuilt, s₁, s₂, s₃, s₄, s₅, hprelude, hsource, hverify, htest,
    hcompile, rfl, rfl, rfl⟩

/-- **A run that succeeds delivers what it reports.** -/
theorem run_delivers (hhost : host.Sparing c) {fs : FileSystem} {report : BootstrapReport}
    (h : (run c host.runner).run cwd (Session.start fs ()) = (.ok report, s')) :
    Delivered c cwd fs s'.files s'.turns report := by
  obtain ⟨prelude, _, _, s₁, s₂, s₃, s₄, s₅, hprelude, hsource, hverify, htest, hcompile,
    hreport, hfiles, hturns⟩ := run_eq_ok h
  have hpromoted : s₃.Promoted c host cwd := .of_ready (Fixpoint.ready_of_verify hhost hverify)
  obtain ⟨tested, htested⟩ :=
    (SelfTest.within_selfTest commandClosed_advances hhost .prebuilt).of_run htest
  obtain ⟨compiled, hcompiled, hauxiliary, hpaths, hartifacts⟩ :=
    compileAuxiliaries_eq_ok hhost (hpromoted.advances ⟨_, htested⟩) hcompile
  obtain ⟨t₁, t₂, t₃, _, _, _, _, _, _, _, hverified⟩ := Fixpoint.verify_promotes hverify
  have hpath : prelude = c.preludePath := by
    obtain ⟨_, _, _, hrest⟩ := Task.run_bind_eq_ok_iff.1 hprelude
    obtain ⟨_, _, _, hend⟩ := Task.run_bind_eq_ok_iff.1 hrest
    cases hend
    rfl
  have hall : s'.turns = s₂.turns ++ t₁ :: ([t₂, t₃] ++ (tested ++ compiled)) := by
    rw [hturns, hcompiled.turns, htested.turns, hverified.turns]
    simp
  refine ⟨hreport.trans hpath, hverified.canonical, hpaths, fun hstraight p hp => ?_,
    fun hundisturbed => ?_⟩
  · rw [hfiles]
    refine (hartifacts (fun t ht => hstraight t ?_ (hauxiliary t ht)) p ?_).isFile
    · rw [hall]
      simp [ht]
    · rwa [hverified.canonical] at hp
  -- The prelude was found when the fixpoint stage began, and three stages leave it.
  have hbegun : s₂.files = Session.leftBy fs s₂.turns := by
    have hsince₁ := (within_generatePrelude commandClosed_since hhost).of_run hprelude
    have hsince₂ := (SelfTest.within_selfTest commandClosed_since hhost .source).of_run hsource
    obtain ⟨new, hnew, hleft⟩ := hsince₁.trans hsince₂
    rw [hleft, hnew]
    rfl
  obtain ⟨hrequired, hcall₁⟩ :
      s₂.files.isFile cwd c.preludeFile = true ∧ t₁.call = Fixpoint.nativeCall c := by
    have hcompiled := Fixpoint.compiled_of_verify hverify hverified.turns
    exact ⟨hcompiled.prelude, hcompiled.call₁⟩
  have hstraight := hundisturbed.outputs _ _ _ hall hcall₁
  obtain ⟨sourced, hsourced⟩ :=
    (SelfTest.within_selfTest commandClosed_advances hhost .source).of_run hsource
  have hfile₂ := namesFile_prelude hhost hprelude hsourced hrequired
  have hfile₃ : s₃.files.NamesFile cwd c.preludeFile := by
    refine Fixpoint.namesFile_of_verify hhost hverify hverified.turns hfile₂ ?_ ?_ ?_
    · rw [hbegun]
      exact hundisturbed.discard _ _ _ hall hcall₁
    · exact fun t ht => hstraight t (List.mem_append_left _ ht)
    · refine fun t ht => hundisturbed.apart t ?_
      rw [hall]
      exact List.mem_append_right _ (List.mem_cons_of_mem _ (List.mem_append_left _ ht))
  have hfile₅ := (htested.trans hcompiled).namesFile
    (fun t ht => hstraight t (List.mem_append_right _ ht)) hfile₃
  rw [hreport, hpath, hfiles]
  exact hfile₅.isFile

/-- **A run executes nothing stale and delivers what it reports.**  However it ends, whenever it executes
an artifact the file was written in the same run. -/
theorem run_fresh_and_delivered (hhost : host.Sparing c) (cwd : Location) (fs : FileSystem) :
    AllFresh c host cwd ((run c host.runner).run cwd (Session.start fs ())).2.turns ∧
      ∀ report, ((run c host.runner).run cwd (Session.start fs ())).1 = .ok report →
        Delivered c cwd fs ((run c host.runner).run cwd (Session.start fs ())).2.files
          ((run c host.runner).run cwd (Session.start fs ())).2.turns report := by
  have hfresh : AllFresh c host cwd ((run c host.runner).run cwd (Session.start fs ())).2.turns :=
    keepsFresh_run hhost _ allFresh_nil
  rcases hrun : (run c host.runner).run cwd (Session.start fs ()) with ⟨outcome, s'⟩
  rw [hrun] at hfresh
  refine ⟨hfresh, ?_⟩
  rintro report rfl
  exact run_delivers hhost hrun

/-! ### An output that takes the place of a link -/

/-- What a program prints that passes every check: the text that a self-test case expects, or else the
last word of its command line. -/
def obligingOutput (i : Invocation) : Bytes :=
  match SelfTest.cases.find? (·.arguments = i.arguments.drop 2) with
  | some case => Text.Utf8.encode case.expected
  | none => Text.Utf8.encode (i.arguments.getLastD "")

/-- A configuration with short names, some prelude and some auxiliary entry points. -/
def terseConfig (prelude : String) (auxiliaries : List String) : Config where
  root := ⟨"/"⟩
  toolchain := .prebuilt ⟨"/o"⟩
  standardLibrary := ⟨"l"⟩
  expander := ⟨⟨"p"⟩, "x"⟩
  preludeGenerator := "g"
  preludePath := ⟨prelude⟩
  selfTest := ⟨⟨"p"⟩, "s"⟩
  auxiliaries := auxiliaries
  echo := false
  toolchainVerbose := false

/-- A toolchain that passes every check. -/
def obligingHost (c : Config) : Host := Host.printing c obligingOutput

theorem sparing_obligingHost (c : Config) : (obligingHost c).Sparing c := Host.sparing_printing _ _

/-- A tree in which the directory of the artifacts is reached through a file of the root, a link. -/
def hoppingFiles : FileSystem where
  nodes := [(["p"], .directory 0o755 0), (["p", "build"], .link "../h.ofta"),
    (["h.ofta"], .link "d"), (["d"], .directory 0o755 0)]
  files := []
  now := 0

/-- A configuration of which one auxiliary entry point is that file. -/
def hoppingConfig : Config := terseConfig "p/build/y" ["/h", "/b"]

/-- A tree in which the expander's artifact is a link to a directory. -/
def linkedFiles : FileSystem where
  nodes := [(["p"], .directory 0o755 0), (["p", "build"], .directory 0o755 0),
    (["p", "build", "x.ofta"], .link "../../d"), (["d"], .directory 0o755 0)]
  files := []
  now := 0

/-- A configuration of which the prelude lies in that directory. -/
def linkedConfig : Config := terseConfig "p/build/x.ofta/y" []

/-- A run with a toolchain that passes every check.  Only the kernel evaluates it. -/
@[irreducible] def obligingRun (c : Config) (fs : FileSystem) :
    Except BootstrapError BootstrapReport × Session Unit :=
  (run c (obligingHost c).runner).run [] (Session.start fs ())

/-- On the first tree nothing stale is executed either. -/
theorem hoppingConfig_fresh :
    (obligingHost hoppingConfig).Sparing hoppingConfig ∧
      AllFresh hoppingConfig (obligingHost hoppingConfig) []
        ((run hoppingConfig (obligingHost hoppingConfig).runner).run []
          (Session.start hoppingFiles ())).2.turns ∧
      ∀ report,
        ((run hoppingConfig (obligingHost hoppingConfig).runner).run []
            (Session.start hoppingFiles ())).1 = .ok report →
          Delivered hoppingConfig [] hoppingFiles
            ((run hoppingConfig (obligingHost hoppingConfig).runner).run []
              (Session.start hoppingFiles ())).2.files
            ((run hoppingConfig (obligingHost hoppingConfig).runner).run []
              (Session.start hoppingFiles ())).2.turns
            report :=
  ⟨sparing_obligingHost _, run_fresh_and_delivered (sparing_obligingHost _) [] hoppingFiles⟩

/-- **A link to a directory can give way.**  On the first tree, the first auxiliary output takes the place
of the link through which the second command reaches the expander; in the end neither the expander
nor the prelude is there.  On the second tree it is the prelude that the discard takes away. -/
theorem obligingRun_misses :
    (∀ c, (obligingHost c).Sparing c) ∧
      ((obligingRun hoppingConfig hoppingFiles).1.isOk = true ∧
        (obligingRun hoppingConfig hoppingFiles).2.turns.getLast?.map (·.call.1) =
          some (hoppingConfig.selectedToolchain.interpret (Fixpoint.first hoppingConfig)
            (hoppingConfig.expansionArguments ⟨⟨"p"⟩, "/b"⟩)).invocation ∧
        (obligingRun hoppingConfig hoppingFiles).2.turns.getLast?.map (·.before.isFile []
          (hoppingConfig.root.join (Fixpoint.first hoppingConfig).relative)) = some false ∧
        (obligingRun hoppingConfig hoppingFiles).2.files.isFile []
          (hoppingConfig.root.join (Fixpoint.first hoppingConfig).relative) = false ∧
        (obligingRun hoppingConfig hoppingFiles).2.files.isFile [] hoppingConfig.preludeFile =
          false) ∧
      (obligingRun linkedConfig linkedFiles).1.isOk = true ∧
      (obligingRun linkedConfig linkedFiles).2.files.isFile [] linkedConfig.preludeFile = false :=
  ⟨sparing_obligingHost, by decide +kernel, by decide +kernel⟩

end Pipeline

end Bootstrap
