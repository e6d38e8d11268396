import Bootstrap.Proofs.Pipeline.Generations

/-!
# Behind the fixpoint

Behind the fixpoint stage every command either has its output collected or fills a file
and is asked for that file.  If the programs change no files themselves, an entry is
still there at the end unless the output of a command took its place.

* `Session.Outlasts` — an entry is still there unless a command filled it;
* `SelfTest.outlasts_run`, `Pipeline.outlasts_compileAuxiliaries` — the stages behind the
  fixpoint;
* `Pipeline.complete_eq_ok` — a bootstrap that succeeded, cut behind its fixpoint stage.
-/

namespace Bootstrap

open FileSystem

variable {cwd : Location} {s s' s'' : Session Unit} {host : Host} {c : Config}

/-- The tree has grown from one session to the other, and an entry is still there unless the output of
a command took its place. -/
def Session.Outlasts (cwd : Location) (s s' : Session Unit) : Prop :=
  ∃ new, s'.turns = s.turns ++ new ∧ Grown s.files s'.files ∧
    ∀ place, (∀ t ∈ new, t.target? cwd ≠ some place) → KeptAt s.files s'.files place

namespace Session.Outlasts

theorem of_eq (hfiles : s'.files = s.files) (hturns : s'.turns = s.turns) :
    Session.Outlasts cwd s s' :=
  ⟨[], by rw [hturns, List.append_nil], hfiles ▸ .refl s.files,
    fun place _ => hfiles ▸ .refl s.files place⟩

theorem trans (h : Session.Outlasts cwd s s') (h' : Session.Outlasts cwd s' s'') :
    Session.Outlasts cwd s s'' := by
  obtain ⟨new, hturns, hgrown, hkept⟩ := h
  obtain ⟨new', hturns', hgrown', hkept'⟩ := h'
  refine ⟨new ++ new', by rw [hturns', hturns, List.append_assoc], hgrown.trans hgrown',
    fun place hnew => ?_⟩
  exact (hkept place fun t ht => hnew t (List.mem_append_left _ ht)).trans
    (hkept' place fun t ht => hnew t (List.mem_append_right _ ht))

end Session.Outlasts

/-- A command that fills a file takes the place of no other entry. -/
theorem Turn.Filled.target? {t : Turn} {destination : Path} {made : FileSystem} {output : Bytes}
    {parent : Location} {name : String} (hcall : t.call.2 = .file destination)
    (h : t.Filled host cwd destination made output parent name) :
    t.target? cwd = some (parent ++ [name]) := by
  unfold Turn.target?
  rw [hcall]
  exact h.named.namedPlace?

namespace StageTask

variable {command : Command}

/-- A command whose output goes to a file that is there afterwards. -/
theorem outlasts_redirected {destination : Path} {o : Output}
    (hspares : host.Spares command.invocation)
    (h : (StageTask.command c host.runner command (.file destination)).run cwd s = (.ok o, s'))
    (hfile : s'.files.isFile cwd destination = true) : Session.Outlasts cwd s s' := by
  obtain ⟨after, hrun, hturns, hfiles⟩ :=
    run_command c host.runner command (.file destination) cwd s
  obtain ⟨hresult, rfl⟩ := Prod.mk.inj (hrun.symm.trans h)
  have hsucceeded :
      (host.runner.turn (command.invocation, .file destination) cwd s).Succeeded := by
    cases hcase : (host.runner.turn (command.invocation, .file destination) cwd s).result with
    | error e =>
        rw [hcase] at hresult
        cases hresult
    | ok o => exact ⟨o, hcase⟩
  rw [hfiles] at hfile
  obtain ⟨_, _, parent, name, hfilled⟩ := Host.turn_filled hspares hsucceeded hfile
  refine ⟨_, hturns, hfiles ▸ hfilled.grown, fun place hnew => ?_⟩
  rw [hfiles]
  refine hfilled.keptAt fun heq => hnew _ (List.mem_singleton_self _) ?_
  rw [hfilled.target? rfl, heq]

/-- A command whose output is collected. -/
theorem outlasts_collected {o : Output} (hspares : host.Spares command.invocation)
    (h : (StageTask.command c host.runner command .bytes).run cwd s = (.ok o, s')) :
    Session.Outlasts cwd s s' := by
  obtain ⟨after, hrun, hturns, hfiles⟩ := run_command c host.runner command .bytes cwd s
  obtain ⟨_, rfl⟩ := Prod.mk.inj (hrun.symm.trans h)
  have hfurnished : Furnished s.files after.files :=
    hfiles ▸ (Host.furnished_runCollected hspares : Furnished s.files _)
  exact ⟨_, hturns, hfurnished.grown, fun place _ => hfurnished.keptAt place⟩

end StageTask

section

variable (hspares : ∀ artifact arguments,
  host.Spares (c.selectedToolchain.interpret artifact arguments).invocation)
include hspares

namespace SelfTest

theorem outlasts_expand (h : (expand c host.runner .prebuilt).run cwd s = (.ok (), s')) :
    Session.Outlasts cwd s s' := by
  unfold expand at h
  obtain ⟨_, s₁, hfirst, hrest⟩ := Task.run_bind_eq_ok_iff.1 h
  obtain ⟨hsame₁, _⟩ := StageTask.require_eq_ok hfirst
  obtain ⟨o, s₂, hcommand, hlast⟩ := Task.run_bind_eq_ok_iff.1 hrest
  obtain ⟨hsame₂, hfile⟩ := StageTask.require_eq_ok hlast
  rw [hsame₁] at hcommand
  rw [hsame₂]
  have hprogram := hspares (c.store.artifact c.expander) (c.expansionArguments c.selfTest)
  exact StageTask.outlasts_redirected hprogram hcommand hfile

theorem outlasts_runCase {case : SelfTestCase}
    (h : (runCase c host.runner .prebuilt case).run cwd s = (.ok (), s')) :
    Session.Outlasts cwd s s' := by
  unfold runCase at h
  obtain ⟨_, s₁, hexpand, h⟩ := Task.run_bind_eq_ok_iff.1 h
  obtain ⟨o, s₂, hcommand, h⟩ := Task.run_bind_eq_ok_iff.1 h
  have hends : s'.files = s₂.files ∧ s'.turns = s₂.turns := by
    split at h <;> cases h
    exact ⟨rfl, rfl⟩
  exact ((outlasts_expand hspares hexpand).trans
    (StageTask.outlasts_collected (hspares _ _) hcommand)).trans (.of_eq hends.1 hends.2)

theorem outlasts_runCases {cases : List SelfTestCase} {names : List String}
    (h : (runCases c host.runner .prebuilt cases).run cwd s = (.ok names, s')) :
    Session.Outlasts cwd s s' := by
  induction cases generalizing s names with
  | nil =>
      cases h
      exact .of_eq rfl rfl
  | cons case rest ih =>
      obtain ⟨_, s₁, hcase, h⟩ := Task.run_bind_eq_ok_iff.1 h
      obtain ⟨more, s₂, hrest, h⟩ := Task.run_bind_eq_ok_iff.1 h
      cases h
      exact (outlasts_runCase hspares hcase).trans (ih hrest)

theorem outlasts_run {report : SelfTestReport}
    (h : (run c host.runner .prebuilt).run cwd s = (.ok report, s')) :
    Session.Outlasts cwd s s' := by
  obtain ⟨_, s₁, hannounce, h⟩ := Task.run_bind_eq_ok_iff.1 h
  obtain ⟨names, s₂, hcases, h⟩ := Task.run_bind_eq_ok_iff.1 h
  cases h
  have hbegin : Session.Outlasts cwd s s₁ := by
    cases hannounce
    exact .of_eq rfl rfl
  exact hbegin.trans (outlasts_runCases hspares hcases)

end SelfTest

namespace Pipeline

theorem outlasts_compileAuxiliary {binary : String} {p : Path}
    (h : (compileAuxiliary c host.runner binary).run cwd s = (.ok p, s')) :
    Session.Outlasts cwd s s' := by
  obtain ⟨_, hfile, _, hcommand⟩ := compileAuxiliary_cut c host.runner h
  have hcompiler := hspares (c.store.artifact c.expander)
    (c.expansionArguments ⟨c.expander.package, binary⟩)
  exact StageTask.outlasts_redirected hcompiler hcommand hfile

theorem outlasts_compileEach {binaries : List String} {paths : List Path}
    (h : (compileEach c host.runner binaries).run cwd s = (.ok paths, s')) :
    Session.Outlasts cwd s s' := by
  induction binaries generalizing s paths with
  | nil =>
      cases h
      exact .of_eq rfl rfl
  | cons binary rest ih =>
      unfold compileEach at h
      obtain ⟨p, s₁, hbinary, hmore⟩ := Task.run_bind_eq_ok_iff.1 h
      obtain ⟨more, s₂, hrest, hend⟩ := Task.run_bind_eq_ok_iff.1 hmore
      cases hend
      exact (outlasts_compileAuxiliary hspares hbinary).trans (ih hrest)

theorem outlasts_compileAuxiliaries {paths : List Path}
    (h : (compileAuxiliaries c host.runner).run cwd s = (.ok paths, s')) :
    Session.Outlasts cwd s s' := by
  obtain ⟨s₁, hfiles, hturns, _, heach⟩ := compileAuxiliaries_cut c host.runner h
  exact (Session.Outlasts.of_eq hfiles hturns).trans (outlasts_compileEach hspares heach)

/-- **A bootstrap that succeeded, cut behind its fixpoint stage.**  What stood in the tree then still
stands there unless a command of the second self-test or an auxiliary compilation took its place. -/
theorem complete_eq_ok {env : Environment} {executable : Path} {report : BootstrapReport}
    (h : (complete c env host.runner).run cwd s = (.ok (executable, report), s')) :
    ∃ s₁ s₂ earlier tested compiled,
      (Fixpoint.verify c host.runner).run cwd s₁ = (.ok report.fixpoint, s₂) ∧
      s₁.turns = s.turns ++ earlier ∧ s'.turns = s₂.turns ++ (tested ++ compiled) ∧
      earlier.map Turn.call =
        Schedule.nativeBuild c ++ (Schedule.prelude c :: Schedule.selfTest c .source) ∧
      tested.map Turn.call = Schedule.selfTest c .prebuilt ∧
      compiled.map Turn.call = c.auxiliaries.map (Schedule.auxiliary c) ∧
      Grown s₂.files s'.files ∧
      ∀ place, (∀ t ∈ tested ++ compiled, t.target? cwd ≠ some place) →
        KeptAt s₂.files s'.files place := by
  unfold complete at h
  obtain ⟨found, s₀, hprepare, hrun⟩ := Task.run_bind_eq_ok_iff.1 h
  obtain ⟨report', s₆, hstages, hend⟩ := Task.run_bind_eq_ok_iff.1 hrun
  cases hend
  unfold run at hstages
  obtain ⟨prelude, s₁, hprelude, hstages⟩ := Task.run_bind_eq_ok_iff.1 hstages
  obtain ⟨fromSource, s₂, hsource, hstages⟩ := Task.run_bind_eq_ok_iff.1 hstages
  obtain ⟨fixpoint, s₃, hverify, hstages⟩ := Task.run_bind_eq_ok_iff.1 hstages
  obtain ⟨prebuilt, s₄, htest, hstages⟩ := Task.run_bind_eq_ok_iff.1 hstages
  obtain ⟨auxiliaries, s₅, hcompile, hstages⟩ := Task.run_bind_eq_ok_iff.1 hstages
  cases hstages
  obtain ⟨built, hbuilt, hbuildCalls⟩ := (follows_prepare c host.runner env).turns_of_ok hprepare
  obtain ⟨generated, hgenerated, hpreludeCalls⟩ :=
    (follows_generatePrelude c host.runner).turns_of_ok hprelude
  obtain ⟨sourced, hsourced, hsourceCalls⟩ :=
    (follows_selfTest c host.runner .source).turns_of_ok hsource
  obtain ⟨tested, htested, hgrown, hkept⟩ := SelfTest.outlasts_run hspares htest
  obtain ⟨compiled, hcompiled, hgrown', hkept'⟩ := outlasts_compileAuxiliaries hspares hcompile
  refine ⟨s₂, s₃, built ++ generated ++ sourced, tested, compiled, hverify, ?_, ?_, ?_, ?_, ?_,
    hgrown.trans hgrown', fun place hnew => ?_⟩
  · rw [hsourced, hgenerated, hbuilt]
    simp
  · rw [← List.append_assoc, ← htested]
    exact hcompiled
  · simp [hbuildCalls, hpreludeCalls, hsourceCalls]
  · exact (follows_selfTest c host.runner .prebuilt).calls_of_ok htest htested
  · exact (follows_compileAuxiliaries c host.runner).calls_of_ok hcompile hcompiled
  · exact (hkept place fun t ht => hnew t (List.mem_append_left _ ht)).trans
      (hkept' place fun t ht => hnew t (List.mem_append_right _ ht))

end Pipeline

end

end Bootstrap
