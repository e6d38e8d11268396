import Bootstrap.Pipeline.SelfTest
import Bootstrap.Proofs.Diff
import Bootstrap.Proofs.Pipeline.Turns
import Bootstrap.Proofs.Text.Decoding

/-!
# The verdict of the self-test

A case is two calls: the test program is expanded, and then it is interpreted.  The case passes if
both go well, what they need is there, and the output has the expected bytes.  All this is told by
the runner's answers, so whether the self-test passes is a statement about the runner, in which
the code of the self-test does not occur.

    scene ──expansion──▶ answered ──interpretation──▶ played ──expansion──▶ …
                         program is a file            output = expected bytes

* `Trial.Gives`, `Trial.Passes` — what the runner has to do;
* `Trial.run_expand`, `Trial.run_runCase` — one expansion, and one case;
* `Trial.run_runCases_append`, `Trial.passes_of_run` — runs of cases, by induction over them;
* `run_verdict` — **the self-test passes exactly if every case does**, and the first output that is
  not the expected one ends it with a report that shows a difference.
-/

namespace Bootstrap

variable {σ : Type}

/-- The files and the memory of a runner: all that it is told besides the call. -/
abbrev Scene (σ : Type) : Type := FileSystem × σ

/-- What a session has for the runner. -/
def Session.scene (s : Session σ) : Scene σ := (s.files, s.memory)

/-- Calls have led from one session to another, which has a scene for the runner. -/
structure Session.Moves (s : Session σ) (calls : List Call) (scene : Scene σ) (s' : Session σ) :
    Prop where
  scene_eq : s'.scene = scene
  calls_eq : s'.calls = s.calls ++ calls

namespace Session.Moves

variable {s s' s'' : Session σ} {calls more : List Call} {scene scene' : Scene σ}

theorem refl (s : Session σ) : s.Moves [] s.scene s := ⟨rfl, (List.append_nil _).symm⟩

theorem trans (h : s.Moves calls scene s') (h' : s'.Moves more scene' s'') :
    s.Moves (calls ++ more) scene' s'' :=
  ⟨h'.scene_eq, by rw [h'.calls_eq, h.calls_eq, List.append_assoc]⟩

end Session.Moves

namespace StageTask

variable {a : Artifact} {cwd : Location} {s : Session σ}

/-- An artifact that is there can be required. -/
theorem require_of_isFile (h : s.files.isFile cwd a.path = true) :
    (artifacts a.require : StageTask σ Unit).run cwd s = (.ok (), s) := by
  rw [run_require, if_pos h]

/-- An artifact that is not there cannot. -/
theorem require_of_not_isFile (h : ¬ s.files.isFile cwd a.path = true) :
    ∃ e, (artifacts a.require : StageTask σ Unit).run cwd s = (.error e, s) := by
  rw [run_require, if_neg h]
  exact ⟨_, rfl⟩

end StageTask

namespace SelfTest

/-- One way to run the self-test. -/
structure Trial (σ : Type) where
  config : Config
  runner : Runner σ
  mode : SelfTestMode
  /-- The current directory. -/
  here : Location

namespace Trial

variable (t : Trial σ)

/-- The command that expands and compiles the test program. -/
def compiling : Command :=
  let arguments := t.config.expansionArguments t.config.selfTest
  match t.mode with
  | .source => t.config.selectedToolchain.run t.config.expander arguments
  | .prebuilt =>
      t.config.selectedToolchain.interpret (t.config.store.artifact t.config.expander) arguments

/-- The call of this command, whose output becomes the program. -/
def expansion : Call := (t.compiling.invocation, .file (SelfTest.program t.config).path)

/-- The call that interprets the test program for a case. -/
def interpretation (case : SelfTestCase) : Call :=
  ((t.config.selectedToolchain.interpret (SelfTest.program t.config) case.arguments).invocation,
    .bytes)

/-- The calls that a case makes when nothing fails before its output is there. -/
def calls (case : SelfTestCase) : List Call := [t.expansion, t.interpretation case]

/-- What the runner answers to a call. -/
def reply (call : Call) (scene : Scene σ) : Reply σ :=
  t.runner call.1 call.2 t.here scene.1 scene.2

/-- The scene that an answer leaves. -/
def answered (call : Call) (scene : Scene σ) : Scene σ :=
  ((t.reply call scene).files, (t.reply call scene).memory)

/-- The scene after the two calls of a case. -/
def played (scene : Scene σ) (case : SelfTestCase) : Scene σ :=
  t.answered (t.interpretation case) (t.answered t.expansion scene)

/-- The expansion leaves the test program. -/
structure Expands (scene : Scene σ) : Prop where
  /-- A prebuilt expander is there before. -/
  expander : t.mode = .prebuilt →
    scene.1.isFile t.here (t.config.store.artifact t.config.expander).path = true
  succeeds : ∃ o, (t.reply t.expansion scene).result = .ok o
  program : (t.answered t.expansion scene).1.isFile t.here (SelfTest.program t.config).path = true

/-- A case comes to its output: the program is expanded, and its interpretation succeeds with
these bytes, no bytes being the empty output. -/
structure Gives (case : SelfTestCase) (scene : Scene σ) (output : Bytes) : Prop where
  expands : t.Expands scene
  answers : ∃ o, (t.reply (t.interpretation case) (t.answered t.expansion scene)).result = .ok o ∧
    o.bytes?.getD [] = output

/-- Every case in its turn gives the bytes of the text that is expected of it. -/
def Passes : List SelfTestCase → Scene σ → Prop
  | [], _ => True
  | case :: rest, scene =>
      t.Gives case scene (Text.Utf8.encode case.expected) ∧ Passes rest (t.played scene case)

variable {t : Trial σ} {s s' : Session σ} {case : SelfTestCase} {scene : Scene σ} {output : Bytes}

/-! ### Calls -/

/-- A call moves a session to the scene that its answer leaves. -/
theorem run_command (t : Trial σ) (command : Command) (capture : Capture) (s : Session σ) :
    ∃ s', (StageTask.command t.config t.runner command capture).run t.here s =
        ((t.reply (command.invocation, capture) s.scene).result.mapError .process, s') ∧
      s.Moves [(command.invocation, capture)]
        (t.answered (command.invocation, capture) s.scene) s' := by
  refine ⟨_, rfl, rfl, ?_⟩
  exact List.map_append

/-- A call that must leave an artifact. -/
theorem run_produce (t : Trial σ) (command : Command) (capture : Capture) (a : Artifact)
    (s : Session σ) :
    ∃ outcome s', (do let _ ← StageTask.command t.config t.runner command capture
                      StageTask.artifacts a.require : StageTask σ Unit).run t.here s =
        (outcome, s') ∧
      (outcome = .ok () ↔
        (∃ o, (t.reply (command.invocation, capture) s.scene).result = .ok o) ∧
          (t.answered (command.invocation, capture) s.scene).1.isFile t.here a.path = true) ∧
      s.Moves [(command.invocation, capture)]
        (t.answered (command.invocation, capture) s.scene) s' := by
  obtain ⟨s', hrun, hmoves⟩ := t.run_command command capture s
  have hfiles : s'.files = (t.answered (command.invocation, capture) s.scene).1 :=
    congrArg Prod.fst hmoves.scene_eq
  cases hresult : (t.reply (command.invocation, capture) s.scene).result with
  | error e =>
      rw [hresult] at hrun
      exact ⟨_, s', Task.run_bind_of_error hrun, by simp, hmoves⟩
  | ok o =>
      rw [hresult] at hrun
      refine ⟨_, s', (Task.run_bind_of_ok hrun).trans (StageTask.run_require a), ?_, hmoves⟩
      rw [hfiles]
      simp

/-- The expansion by the source asks for nothing before its call. -/
theorem expand_source (c : Config) (runner : Runner σ) :
    SelfTest.expand c runner .source = (do
      let _ ← StageTask.command c runner
        (c.selectedToolchain.run c.expander (c.expansionArguments c.selfTest))
        (.file (SelfTest.program c).path)
      StageTask.artifacts (SelfTest.program c).require) := by
  simp only [SelfTest.expand]

/-- The expansion by an artifact asks for that artifact before its call. -/
theorem expand_prebuilt (c : Config) (runner : Runner σ) :
    SelfTest.expand c runner .prebuilt = (do
      StageTask.artifacts (c.store.artifact c.expander).require
      let _ ← StageTask.command c runner
        (c.selectedToolchain.interpret (c.store.artifact c.expander)
          (c.expansionArguments c.selfTest))
        (.file (SelfTest.program c).path)
      StageTask.artifacts (SelfTest.program c).require) := by
  simp only [SelfTest.expand]

/-- **The expansion** ends well exactly if it leaves the program, and then it was one call. -/
theorem run_expand (t : Trial σ) (s : Session σ) :
    ∃ outcome s', (SelfTest.expand t.config t.runner t.mode).run t.here s = (outcome, s') ∧
      (outcome = .ok () ↔ t.Expands s.scene) ∧
      (outcome = .ok () → s.Moves [t.expansion] (t.answered t.expansion s.scene) s') := by
  obtain ⟨outcome, s', hproduce, houtcome, hmoves⟩ := t.run_produce t.compiling
    (.file (SelfTest.program t.config).path) (SelfTest.program t.config) s
  have hexpands : (t.mode = .prebuilt →
      s.files.isFile t.here (t.config.store.artifact t.config.expander).path = true) →
      (outcome = .ok () ↔ t.Expands s.scene) := by
    intro hexpander
    rw [houtcome]
    constructor
    · intro hleft
      exact ⟨hexpander, hleft.1, hleft.2⟩
    · intro hexpands
      exact ⟨hexpands.succeeds, hexpands.program⟩
  cases hmode : t.mode with
  | source =>
      rw [compiling, hmode] at hproduce
      rw [expand_source]
      have hexpander := hexpands (by simp [hmode])
      exact ⟨outcome, s', hproduce, hexpander, fun _ => hmoves⟩
  | prebuilt =>
      rw [compiling, hmode] at hproduce
      rw [expand_prebuilt]
      by_cases hfile :
          s.files.isFile t.here (t.config.store.artifact t.config.expander).path = true
      · have hrequire := StageTask.require_of_isFile hfile
        rw [Task.run_bind_of_ok hrequire]
        have hexpander := hexpands fun _ => hfile
        exact ⟨outcome, s', hproduce, hexpander, fun _ => hmoves⟩
      · have hnot : ¬ t.Expands s.scene := by
          intro hexpands
          exact hfile (hexpands.expander hmode)
        obtain ⟨e, hrequire⟩ := StageTask.require_of_not_isFile hfile
        rw [Task.run_bind_of_error hrequire]
        exact ⟨.error e, s, rfl, ⟨nofun, fun h => absurd h hnot⟩, nofun⟩

/-! ### Cases -/

theorem verdict_eq_ok_iff (case : SelfTestCase) (program : String) (output : Bytes) :
    SelfTest.verdict case program output = .ok () ↔ output = Text.Utf8.encode case.expected := by
  unfold SelfTest.verdict
  split <;> simp [*]

/-- The interpretation of the test program moves a session like every call. -/
theorem run_interpret (t : Trial σ) (case : SelfTestCase) (s : Session σ) :
    ∃ s', (StageTask.command t.config t.runner
        (t.config.selectedToolchain.interpret (SelfTest.program t.config) case.arguments)
        .bytes).run t.here s =
        ((t.reply (t.interpretation case) s.scene).result.mapError .process, s') ∧
      s.Moves [t.interpretation case] (t.answered (t.interpretation case) s.scene) s' :=
  t.run_command _ _ s

/-- A verdict is what a case comes to, and only a line of the log follows it. -/
theorem run_of_verdict (t : Trial σ) (verdict : Except BootstrapError Unit)
    (source message : String) (fields : List (String × String)) (s : Session σ) :
    ∃ s', (match verdict with
        | .error e => Task.fail e
        | .ok () => Task.log .debug source message fields : StageTask σ Unit).run t.here s =
        (verdict, s') ∧ s.Moves [] s.scene s' := by
  cases verdict with
  | error e => exact ⟨s, rfl, .refl s⟩
  | ok => exact ⟨_, rfl, rfl, (List.append_nil _).symm⟩

/-- **One case.**  It comes to the verdict on its output, after its two calls; and it passes only
with the output that is expected. -/
theorem run_runCase (t : Trial σ) (case : SelfTestCase) (s : Session σ) :
    ∃ outcome s', (SelfTest.runCase t.config t.runner t.mode case).run t.here s = (outcome, s') ∧
      (∀ output, t.Gives case s.scene output →
        outcome = SelfTest.verdict case t.config.selfTest.binary output ∧
          s.Moves (t.calls case) (t.played s.scene case) s') ∧
      (outcome = .ok () → t.Gives case s.scene (Text.Utf8.encode case.expected)) := by
  obtain ⟨expanded, s₁, hexpand, hexpands, hmoves⟩ := t.run_expand s
  cases expanded with
  | error e =>
      have hnot : ¬ t.Expands s.scene := by
        intro h
        exact nomatch hexpands.2 h
      have hrun : (SelfTest.runCase t.config t.runner t.mode case).run t.here s = (.error e, s₁) :=
        Task.run_bind_of_error hexpand
      exact ⟨.error e, s₁, hrun, fun _ hgives => absurd hgives.expands hnot, nofun⟩
  | ok =>
      have hmoves := hmoves rfl
      obtain ⟨s₂, hcommand, hmoves'⟩ := t.run_interpret case s₁
      rw [hmoves.scene_eq] at hcommand hmoves'
      cases hresult : (t.reply (t.interpretation case) (t.answered t.expansion s.scene)).result with
      | error e =>
          rw [hresult] at hcommand
          have hnone : ∀ output, ¬ t.Gives case s.scene output := by
            intro output hgives
            obtain ⟨o, ho, _⟩ := hgives.answers
            rw [hresult] at ho
            cases ho
          have hrun : (SelfTest.runCase t.config t.runner t.mode case).run t.here s =
              (.error (.process e), s₂) :=
            (Task.run_bind_of_ok hexpand).trans (Task.run_bind_of_error hcommand)
          exact ⟨_, s₂, hrun, fun output hgives => absurd hgives (hnone output), nofun⟩
      | ok o =>
          rw [hresult] at hcommand
          obtain ⟨s₃, hverdict, hmoves''⟩ := t.run_of_verdict
            (SelfTest.verdict case t.config.selfTest.binary (o.bytes?.getD [])) SelfTest.logSource
            "self-test passed" [("case", Text.Quoted.quote case.name)] s₂
          rw [hmoves'.scene_eq] at hmoves''
          have hrun : (SelfTest.runCase t.config t.runner t.mode case).run t.here s = (_, s₃) :=
            (Task.run_bind_of_ok hexpand).trans ((Task.run_bind_of_ok hcommand).trans hverdict)
          refine ⟨_, s₃, hrun, ?_, ?_⟩
          · intro output hgives
            obtain ⟨o', ho', rfl⟩ := hgives.answers
            rw [hresult] at ho'
            cases ho'
            exact ⟨rfl, (hmoves.trans hmoves').trans hmoves''⟩
          · intro hpassed
            rw [verdict_eq_ok_iff] at hpassed
            exact ⟨hexpands.1 rfl, o, hresult, hpassed⟩

/-! ### Runs of cases -/

/-- **Cases that pass** move the session to where the runner's answers lead, and what comes behind
them runs from there. -/
theorem run_runCases_append (t : Trial σ) {earlier : List SelfTestCase} {s : Session σ}
    (hpasses : t.Passes earlier s.scene) :
    ∃ s', s.Moves (earlier.flatMap t.calls) (earlier.foldl t.played s.scene) s' ∧
      ∀ later, (SelfTest.runCases t.config t.runner t.mode (earlier ++ later)).run t.here s =
        (((SelfTest.runCases t.config t.runner t.mode later).run t.here s').1.map
            (earlier.map SelfTestCase.name ++ ·),
          ((SelfTest.runCases t.config t.runner t.mode later).run t.here s').2) := by
  induction earlier generalizing s with
  | nil =>
      refine ⟨s, .refl s, ?_⟩
      intro later
      rw [List.nil_append]
      rcases (SelfTest.runCases t.config t.runner t.mode later).run t.here s with ⟨_ | _, _⟩ <;> rfl
  | cons case earlier ih =>
      obtain ⟨hgives, hpasses⟩ := hpasses
      obtain ⟨outcome, s₁, hcase, houtcome, _⟩ := t.run_runCase case s
      obtain ⟨rfl, hmoves⟩ := houtcome _ hgives
      rw [(verdict_eq_ok_iff _ _ _).2 rfl] at hcase
      rw [← hmoves.scene_eq] at hpasses
      obtain ⟨s₂, hmoves', hlater⟩ := ih hpasses
      rw [hmoves.scene_eq] at hmoves'
      refine ⟨s₂, hmoves.trans hmoves', ?_⟩
      intro later
      rw [List.cons_append, SelfTest.runCases, Task.run_bind_of_ok hcase, Task.run_bind, hlater]
      rcases (SelfTest.runCases t.config t.runner t.mode later).run t.here s₂ with ⟨_ | _, _⟩ <;>
        rfl

/-- Only cases that pass come to a list of names. -/
theorem passes_of_run (t : Trial σ) {cases : List SelfTestCase} {s s' : Session σ}
    {names : List String}
    (hrun : (SelfTest.runCases t.config t.runner t.mode cases).run t.here s = (.ok names, s')) :
    t.Passes cases s.scene := by
  induction cases generalizing s s' names with
  | nil => trivial
  | cons case cases ih =>
      obtain ⟨outcome, s₁, hcase, houtcome, hpassed⟩ := t.run_runCase case s
      obtain ⟨_, middle, hfirst, hrest⟩ := Task.run_bind_eq_ok_iff.1 hrun
      obtain ⟨names', _, hrest, _⟩ := Task.run_bind_eq_ok_iff.1 hrest
      rw [hcase] at hfirst
      cases hfirst
      have hgives := hpassed rfl
      obtain ⟨_, hmoves⟩ := houtcome _ hgives
      have hpasses := ih hrest
      rw [hmoves.scene_eq] at hpasses
      exact ⟨hgives, hpasses⟩

end Trial

/-! ### The verdict -/

/-- No expected text holds a replacement character. -/
theorem replacement_not_mem_expected :
    ∀ case ∈ cases, Text.Utf8.replacement ∉ case.expected.toList := by
  decide

/-- An output that is not the expected one shows a difference, even if it is no text. -/
theorem exists_marked_line {case : SelfTestCase} {output : Bytes} (hcase : case ∈ cases)
    (hne : output ≠ Text.Utf8.encode case.expected) :
    ∃ line ∈ (Diff.render case.expected (Text.Utf8.decodeLossy output)).toList.splitOn '\n',
      Diff.Marks line := by
  rw [Diff.render_eq_renderWith, Diff.renderWith_marks_iff]
  intro hshown
  have hclean := replacement_not_mem_expected case hcase
  exact hne ((Text.Utf8.decodeLossy_eq_iff hclean).1 hshown.symm).symm

/-- The stage announces itself and runs its cases. -/
theorem run_eq (t : Trial σ) (s : Session σ) :
    ∃ s', s.Moves [] s.scene s' ∧ (run t.config t.runner t.mode).run t.here s =
      (((runCases t.config t.runner t.mode cases).run t.here s').1.map (⟨t.mode, ·⟩),
        ((runCases t.config t.runner t.mode cases).run t.here s').2) := by
  have hannounced : ∃ s', s.Moves [] s.scene s' ∧
      (StageTask.announce logSource t.mode.stage [] : StageTask σ Unit).run t.here s =
        (.ok (), s') := by
    refine ⟨_, ?_, rfl⟩
    exact ⟨rfl, (List.append_nil _).symm⟩
  obtain ⟨s', hmoves, hannounced⟩ := hannounced
  refine ⟨s', hmoves, ?_⟩
  rw [run, Task.run_bind_of_ok hannounced, Task.run_bind]
  rcases (runCases t.config t.runner t.mode cases).run t.here s' with ⟨_ | _, _⟩ <;> rfl

/-- Cases that all pass are named in the report. -/
theorem run_of_passes {t : Trial σ} {s : Session σ} (hpasses : t.Passes cases s.scene) :
    ∃ s', (run t.config t.runner t.mode).run t.here s =
      (.ok ⟨t.mode, cases.map SelfTestCase.name⟩, s') := by
  obtain ⟨s₀, hannounced, hrun⟩ := run_eq t s
  rw [← hannounced.scene_eq] at hpasses
  obtain ⟨s₁, _, hcases⟩ := t.run_runCases_append hpasses
  have hcases := hcases []
  rw [List.append_nil] at hcases
  rw [hcases] at hrun
  exact ⟨s₁, hrun⟩

/-- The report is there only if all cases pass. -/
theorem passes_of_run {t : Trial σ} {s s' : Session σ} {report : SelfTestReport}
    (h : (run t.config t.runner t.mode).run t.here s = (.ok report, s')) :
    t.Passes cases s.scene := by
  obtain ⟨s₀, hannounced, hrun⟩ := run_eq t s
  rw [h] at hrun
  rcases hcases : (runCases t.config t.runner t.mode cases).run t.here s₀ with ⟨e | names, s''⟩
  · rw [hcases] at hrun
    cases hrun
  · rw [← hannounced.scene_eq]
    exact t.passes_of_run hcases

/-- The first case whose output is not the expected one ends the run. -/
theorem run_of_gives {t : Trial σ} {s : Session σ} {earlier later : List SelfTestCase}
    {case : SelfTestCase} {output : Bytes} (hsplit : cases = earlier ++ case :: later)
    (hpasses : t.Passes earlier s.scene)
    (hgives : t.Gives case (earlier.foldl t.played s.scene) output)
    (hne : output ≠ Text.Utf8.encode case.expected) :
    ∃ s', (run t.config t.runner t.mode).run t.here s =
        (.error (.selfTestMismatch case.name t.config.selfTest.binary case.expected
          (Text.Utf8.decodeLossy output)
          (Diff.render case.expected (Text.Utf8.decodeLossy output))), s') ∧
      s'.calls = s.calls ++ (earlier ++ [case]).flatMap t.calls := by
  obtain ⟨s₀, hannounced, hrun⟩ := run_eq t s
  rw [← hannounced.scene_eq] at hpasses hgives
  obtain ⟨s₁, hmoves, hcases⟩ := t.run_runCases_append hpasses
  rw [← hmoves.scene_eq] at hgives
  obtain ⟨outcome, s₂, hcase, houtcome, _⟩ := t.run_runCase case s₁
  obtain ⟨rfl, hmoves'⟩ := houtcome output hgives
  rw [verdict, if_neg hne] at hcase
  have hlater : (runCases t.config t.runner t.mode (case :: later)).run t.here s₁ = _ :=
    Task.run_bind_of_error hcase
  rw [hsplit, hcases, hlater] at hrun
  refine ⟨s₂, hrun, ?_⟩
  rw [((hannounced.trans hmoves).trans hmoves').calls_eq]
  simp

/-- **The verdict of the self-test.**  It passes exactly if every case in its turn gives the
expected bytes, and then it names them all.  The first case that gives other bytes ends it: there is
no further call, and whatever the bytes are, the report shows a difference. -/
theorem run_verdict (t : Trial σ) (s : Session σ) :
    ((∃ report s', (run t.config t.runner t.mode).run t.here s = (.ok report, s')) ↔
      t.Passes cases s.scene) ∧
    (∀ report s', (run t.config t.runner t.mode).run t.here s = (.ok report, s') →
      report = ⟨t.mode, cases.map SelfTestCase.name⟩) ∧
    ∀ earlier case later output, cases = earlier ++ case :: later → t.Passes earlier s.scene →
      t.Gives case (earlier.foldl t.played s.scene) output →
      output ≠ Text.Utf8.encode case.expected →
      ∃ diff s', (run t.config t.runner t.mode).run t.here s =
          (.error (.selfTestMismatch case.name t.config.selfTest.binary case.expected
            (Text.Utf8.decodeLossy output) diff), s') ∧
        s'.calls = s.calls ++ (earlier ++ [case]).flatMap t.calls ∧
        ∃ line ∈ diff.toList.splitOn '\n', Diff.Marks line := by
  refine ⟨⟨?_, ?_⟩, ?_, ?_⟩
  · intro hends
    obtain ⟨report, s', hrun⟩ := hends
    exact passes_of_run hrun
  · intro hpasses
    obtain ⟨s', hrun⟩ := run_of_passes hpasses
    exact ⟨_, s', hrun⟩
  · intro report s' hrun
    obtain ⟨s'', hrun'⟩ := run_of_passes (passes_of_run hrun)
    rw [hrun] at hrun'
    cases hrun'
    rfl
  · intro earlier case later output hsplit hpasses hgives hne
    obtain ⟨s', hrun, hcalls⟩ := run_of_gives hsplit hpasses hgives hne
    have hcase : case ∈ cases := by simp [hsplit]
    exact ⟨_, s', hrun, hcalls, exists_marked_line hcase hne⟩

/-- A prebuilt expander and a test program. -/
def sampleFiles : FileSystem where
  nodes := [(["p"], .directory 0o755 0), (["p", "build"], .directory 0o755 0),
    (["p", "build", "x.ofta"], .file 0), (["p", "build", "t.ofta"], .file 1)]
  files := [(0, ⟨[], 0o644, 0⟩), (1, ⟨[], 0o644, 0⟩)]
  now := 0

/-- A runner that counts its calls.  Up to the second it does what is expected, then it answers with
a byte that is in no text. -/
def sampleTrial : Trial Nat where
  config := { Config.standard ⟨"/"⟩ with expander := ⟨⟨"p"⟩, "x"⟩, selfTest := ⟨⟨"p"⟩, "t"⟩ }
  runner := fun _ capture _ files count =>
    let output := match capture with
      | .bytes => if count < 2 then .text cases[0].expected else .bytes [0xFF]
      | _ => .inherited
    ⟨.ok output, files, count + 1, []⟩
  mode := .prebuilt
  here := []

/-- A byte that is in no text is told from the expected output, and there is no fifth call. -/
theorem sampleTrial_mismatch :
    ∃ expected diff s', (run sampleTrial.config sampleTrial.runner sampleTrial.mode).run []
        (Session.start sampleFiles 0) =
          (.error (.selfTestMismatch "two arguments" "t" expected "\uFFFD" diff), s') ∧
      s'.calls.length = 4 ∧ ∃ line ∈ diff.toList.splitOn '\n', Diff.Marks line := by
  have hexpands : ∀ count : Nat, sampleTrial.Expands (sampleFiles, count) := by
    intro count
    refine ⟨?_, ⟨.inherited, rfl⟩, ?_⟩
    · intro _
      show sampleFiles.isFile _ _ = true
      decide +kernel
    · show sampleFiles.isFile _ _ = true
      decide +kernel
  have hfirst : sampleTrial.Gives cases[0] (sampleFiles, 0) (Text.Utf8.encode cases[0].expected) :=
    ⟨hexpands 0, _, rfl, rfl⟩
  have hsecond : sampleTrial.Gives cases[1] (sampleFiles, 2) [0xFF] := ⟨hexpands 2, _, rfl, rfl⟩
  obtain ⟨diff, s', hrun, hcalls, hline⟩ :=
    (run_verdict sampleTrial (Session.start sampleFiles 0)).2.2 [cases[0]] cases[1] [] [0xFF] rfl
      ⟨hfirst, trivial⟩ hsecond (by decide)
  have hshown : Text.Utf8.decodeLossy [0xFF] = "\uFFFD" := by decide +kernel
  rw [hshown] at hrun
  have hfour : s'.calls.length = 4 := by
    rw [hcalls]
    rfl
  exact ⟨_, diff, s', hrun, hfour, hline⟩

end SelfTest

end Bootstrap
