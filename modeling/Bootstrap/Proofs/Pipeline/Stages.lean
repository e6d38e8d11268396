import Bootstrap.Proofs.Process.Sparing

/-!
# Stages made of commands

Most stages do nothing to the files themselves: they issue commands that change no file,
each with its output collected or put under one of the paths that the configuration
writes to.  A relation between sessions that every such command respects holds of all
of them, however they end.

* `Config.outputs` — the paths under which a run writes;
* `CommandClosed` — what a relation must respect;
* `Task.Within` — a task that stays within a relation, closed under sequences;
* `within_generatePrelude`, `within_selfTest`, `within_compileAuxiliaries` — the stages.
-/

namespace Bootstrap

variable {cwd : Location} {c : Config} {host : Host} {ε α β : Type}

namespace Config

/-- The paths under which the stages write. -/
def outputs (c : Config) : List Path :=
  [c.preludeFile, (SelfTest.program c).path, (Fixpoint.first c).path, (Fixpoint.second c).path,
    (Fixpoint.third c).path] ++
    c.auxiliaries.map fun binary => (c.store.artifact ⟨c.expander.package, binary⟩).path

theorem prelude_mem_outputs (c : Config) : c.preludeFile ∈ c.outputs := by simp [outputs]

theorem program_mem_outputs (c : Config) : (SelfTest.program c).path ∈ c.outputs := by
  simp [outputs]

theorem first_mem_outputs (c : Config) : (Fixpoint.first c).path ∈ c.outputs := by simp [outputs]

theorem second_mem_outputs (c : Config) : (Fixpoint.second c).path ∈ c.outputs := by simp [outputs]

theorem third_mem_outputs (c : Config) : (Fixpoint.third c).path ∈ c.outputs := by simp [outputs]

theorem auxiliary_mem_outputs {binary : String} (h : binary ∈ c.auxiliaries) :
    (c.store.artifact ⟨c.expander.package, binary⟩).path ∈ c.outputs :=
  List.mem_append_right _ (List.mem_map_of_mem h)

/-- Output that is collected, or put under a path of the configuration. -/
def Captures (c : Config) (capture : Capture) : Prop :=
  capture = .bytes ∨ ∃ p ∈ c.outputs, capture = .file p

end Config

/-- **A relation between sessions that commands respect.** -/
structure CommandClosed (c : Config) (host : Host) (cwd : Location)
    (R : Session Unit → Session Unit → Prop) : Prop where
  /-- Nothing has happened. -/
  still : ∀ {s s' : Session Unit}, s'.files = s.files → s'.turns = s.turns → R s s'
  trans : ∀ {s s' s'' : Session Unit}, R s s' → R s' s'' → R s s''
  /-- A program that changes no file has made a turn. -/
  command : ∀ {s s' : Session Unit} {i : Invocation} {capture : Capture} {t : Turn}, host.Spares i →
    c.Captures capture → host.runner.turn (i, capture) cwd s = t → s'.turns = s.turns ++ [t] →
    s'.files = t.after → R s s'

namespace Task

variable {R : Session Unit → Session Unit → Prop}

/-- However the task ends, the session has changed as the relation says. -/
def Within (R : Session Unit → Session Unit → Prop) (cwd : Location) (task : Task Unit ε α) : Prop :=
  ∀ s, R s (task.run cwd s).2

theorem Within.of_run {task : Task Unit ε α} {s s' : Session Unit} {r : Except ε α}
    (h : task.Within R cwd) (hrun : task.run cwd s = (r, s')) : R s s' := by
  have hs := h s
  rwa [hrun] at hs

end Task

section

variable {R : Session Unit → Session Unit → Prop} (hR : CommandClosed c host cwd R)
variable (hhost : host.Sparing c)
include hR

theorem Task.Quiet.within {task : Task Unit ε α} (h : task.Quiet) : task.Within R cwd :=
  fun s => hR.still (h cwd s).1 (h cwd s).2

theorem Task.Within.bind {task : Task Unit ε α} {next : α → Task Unit ε β}
    (h : task.Within R cwd) (hnext : ∀ a, (next a).Within R cwd) :
    (task >>= next).Within R cwd := by
  intro s
  rw [Task.run_bind]
  rcases hrun : task.run cwd s with ⟨e | a, s'⟩
  · exact h.of_run hrun
  · exact hR.trans (h.of_run hrun) (hnext a s')

theorem Task.within_pure (a : α) : (pure a : Task Unit ε α).Within R cwd :=
  (Task.quiet_pure a).within hR

theorem StageTask.within_command {command : Command} (capture : Capture)
    (hspares : host.Spares command.invocation) (hcapture : c.Captures capture) :
    (StageTask.command c host.runner command capture).Within R cwd := by
  intro s
  obtain ⟨s', hrun, hturns, hfiles⟩ := StageTask.run_command c host.runner command capture cwd s
  rw [hrun]
  exact hR.command hspares hcapture rfl hturns hfiles

theorem StageTask.within_require (a : Artifact) :
    (StageTask.artifacts a.require : StageTask Unit Unit).Within R cwd :=
  (StageTask.quiet_artifacts (Artifact.looks_require a)).within hR

theorem StageTask.within_announce (source : String) (stage : Stage)
    (more : List (String × String)) :
    (StageTask.announce source stage more : StageTask Unit Unit).Within R cwd :=
  (Task.quiet_log _ _ _ _).within hR

include hhost

theorem Pipeline.within_generatePrelude : (generatePrelude c host.runner).Within R cwd := by
  have hcommand : ∀ key arguments, (StageTask.command c host.runner
      (c.selectedToolchain.run key arguments) (.file c.preludeFile)).Within R cwd :=
    fun key arguments => StageTask.within_command hR _ (hhost.run key arguments)
      (.inr ⟨_, c.prelude_mem_outputs, rfl⟩)
  unfold generatePrelude
  refine (StageTask.within_announce hR _ _ _).bind hR fun _ => ?_
  exact (hcommand _ _).bind hR fun _ => Task.within_pure hR _

namespace SelfTest

theorem within_expand (mode : SelfTestMode) : (expand c host.runner mode).Within R cwd := by
  have hcapture : c.Captures (.file (program c).path) := .inr ⟨_, c.program_mem_outputs, rfl⟩
  have hrequire := StageTask.within_require hR (program c)
  unfold expand
  cases mode with
  | source =>
      have hcommand := StageTask.within_command hR (.file (program c).path)
        (hhost.run c.expander (c.expansionArguments c.selfTest)) hcapture
      exact hcommand.bind hR fun _ => hrequire
  | prebuilt =>
      have hcommand := StageTask.within_command hR (.file (program c).path)
        (hhost.interpret (c.store.artifact c.expander) (c.expansionArguments c.selfTest)) hcapture
      exact (StageTask.within_require hR _).bind hR fun _ => hcommand.bind hR fun _ => hrequire

theorem within_runCase (mode : SelfTestMode) (case : SelfTestCase) :
    (runCase c host.runner mode case).Within R cwd := by
  unfold runCase
  refine (within_expand hR hhost mode).bind hR fun _ => ?_
  refine (StageTask.within_command hR .bytes (hhost.interpret _ _) (.inl rfl)).bind hR fun output => ?_
  split
  · exact fun s => hR.still rfl rfl
  · exact (Task.quiet_log _ _ _ _).within hR

theorem within_runCases (mode : SelfTestMode) (cases : List SelfTestCase) :
    (runCases c host.runner mode cases).Within R cwd := by
  induction cases with
  | nil => exact Task.within_pure hR _
  | cons case rest ih =>
      exact (within_runCase hR hhost mode case).bind hR fun _ =>
        ih.bind hR fun _ => Task.within_pure hR _

theorem within_selfTest (mode : SelfTestMode) : (run c host.runner mode).Within R cwd :=
  (StageTask.within_announce hR _ _ _).bind hR fun _ =>
    (within_runCases hR hhost mode cases).bind hR fun _ => Task.within_pure hR _

end SelfTest

theorem Fixpoint.within_selfCompile (compiler : Artifact) {output : Artifact}
    (hp : output.path ∈ c.outputs) : (selfCompile c host.runner compiler output).Within R cwd := by
  have hcommand := StageTask.within_command hR (.file output.path)
    (hhost.interpret compiler (c.expansionArguments c.expander)) (.inr ⟨_, hp, rfl⟩)
  unfold selfCompile
  exact hcommand.bind hR fun _ => StageTask.within_require hR _

namespace Pipeline

theorem within_compileAuxiliary {binary : String} (hbinary : binary ∈ c.auxiliaries) :
    (compileAuxiliary c host.runner binary).Within R cwd := by
  have hcommand := StageTask.within_command hR
    (.file (c.store.artifact ⟨c.expander.package, binary⟩).path)
    (hhost.interpret (c.store.artifact c.expander)
      (c.expansionArguments ⟨c.expander.package, binary⟩))
    (.inr ⟨_, Config.auxiliary_mem_outputs hbinary, rfl⟩)
  unfold compileAuxiliary
  refine hcommand.bind hR fun _ => ?_
  exact (StageTask.within_require hR _).bind hR fun _ => Task.within_pure hR _

theorem within_compileEach (binaries : List String) (hbinaries : binaries ⊆ c.auxiliaries) :
    (compileEach c host.runner binaries).Within R cwd := by
  induction binaries with
  | nil => exact Task.within_pure hR _
  | cons binary rest ih =>
      obtain ⟨hbinary, hrest⟩ := List.cons_subset.1 hbinaries
      exact (within_compileAuxiliary hR hhost hbinary).bind hR fun _ =>
        (ih hrest).bind hR fun _ => Task.within_pure hR _

theorem within_compileAuxiliaries : (compileAuxiliaries c host.runner).Within R cwd := by
  unfold compileAuxiliaries
  refine (StageTask.within_announce hR _ _ _).bind hR fun _ => ?_
  exact (StageTask.within_require hR _).bind hR fun _ =>
    within_compileEach hR hhost c.auxiliaries (List.Subset.refl _)

end Pipeline

end

/-- Commands are all that has changed the files. -/
theorem commandClosed_since : CommandClosed c host cwd Session.Since where
  still := .of_eq
  trans := .trans
  command := by
    intro s s' i capture t _ _ _ hturns hfiles
    exact ⟨[t], hturns, by rw [hfiles]; rfl⟩

end Bootstrap
