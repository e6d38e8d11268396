import Bootstrap.Proofs.Pipeline.Plan

/-!
# The schedule

Every command of a bootstrap is known before it begins: the schedule is computed from the
configuration alone.  A run issues the beginning of it, whatever the files are and
whatever the runner answers.

    build source    check, doc, build --release
    prelude         run the generator                        > prelude
    self-test       run the expander                         > program
                    interpret the program                    (for every case)
    fixpoint        compile the expander
                    interpret the canonical artifact         > generation 2
                    interpret generation 2                   > generation 3
    self-test       interpret the canonical artifact         > program
                    interpret the program                    (for every case)
    auxiliaries     interpret the canonical artifact         > auxiliary

* `follows_complete` — the run follows the schedule, stage by stage;
* `complete_keeps_schedule` — what that means for the turns of a run.
-/

namespace Bootstrap

variable {σ : Type}

namespace Schedule

/-- A command of the build tool. -/
def cargo (directory : Path) (arguments : List String) : Call :=
  (⟨⟨"cargo"⟩, "-q" :: arguments, some directory⟩, .inherit)

/-- A command of the toolchain, issued from the root. -/
def toolchain (c : Config) (arguments : List String) (capture : Capture) : Call :=
  (⟨c.toolchain.executable, (if c.toolchainVerbose then ["-v"] else []) ++ arguments, some c.root⟩,
    capture)

/-- The file of an artifact as seen from the root; `suffix` tells its generation. -/
def file (key : ArtifactKey) (suffix : String) : Path :=
  (key.package.push "build").push (key.binary ++ suffix ++ ".ofta")

/-- Output that goes to a file below the root. -/
def into (c : Config) (p : Path) : Capture := .file (c.root.join p)

/-- The arguments with which the expander compiles an entry point. -/
def expansion (c : Config) (package : Path) (binary : String) : List String :=
  [c.standardLibrary.text, package.text, binary]

/-- The toolchain is built, if it has to be. -/
def nativeBuild (c : Config) : List Call :=
  match c.toolchain with
  | .build directory =>
      [cargo directory ["check"], cargo directory ["doc"], cargo directory ["build", "--release"]]
  | _ => []

/-- The prelude is generated. -/
def prelude (c : Config) : Call :=
  toolchain c
    ["run", "--std", c.standardLibrary.text, c.expander.package.text, c.preludeGenerator,
      c.standardLibrary.text]
    (into c c.preludePath)

/-- The expander is run from its source. -/
def fromSource (c : Config) : List String :=
  ["run", "--std", c.standardLibrary.text, c.expander.package.text, c.expander.binary]

/-- The expander is run from an artifact. -/
def fromArtifact (c : Config) (suffix : String) : List String :=
  ["interpret", (file c.expander suffix).text]

/-- The expander is run as a self-test asks for it. -/
def expander (c : Config) : SelfTestMode → List String
  | .source => fromSource c
  | .prebuilt => fromArtifact c ""

/-- The test program is expanded and run on one case. -/
def selfTestCase (c : Config) (mode : SelfTestMode) (case : SelfTestCase) : List Call :=
  [toolchain c (expander c mode ++ expansion c c.selfTest.package c.selfTest.binary)
      (into c (file c.selfTest "")),
    toolchain c (["interpret", (file c.selfTest "").text] ++ case.arguments) .bytes]

/-- A self-test is run. -/
def selfTest (c : Config) (mode : SelfTestMode) : List Call :=
  SelfTest.cases.flatMap (selfTestCase c mode)

/-- The expander compiles itself. -/
def fixpoint (c : Config) : List Call :=
  let arguments := expansion c c.expander.package c.expander.binary
  [toolchain c
      ["compile", "--std", c.standardLibrary.text, c.expander.package.text, c.expander.binary]
      .inherit,
    toolchain c (fromArtifact c "" ++ arguments) (into c (file c.expander "-2")),
    toolchain c (fromArtifact c "-2" ++ arguments) (into c (file c.expander "-3"))]

/-- An auxiliary entry point is compiled. -/
def auxiliary (c : Config) (binary : String) : Call :=
  toolchain c (fromArtifact c "" ++ expansion c c.expander.package binary)
    (into c (file ⟨c.expander.package, binary⟩ ""))

/-- All commands of a run behind the native build. -/
def stages (c : Config) : List Call :=
  [prelude c] ++ (selfTest c .source ++ (fixpoint c ++
    (selfTest c .prebuilt ++ c.auxiliaries.map (auxiliary c))))

/-- All commands of a bootstrap. -/
def all (c : Config) : List Call := nativeBuild c ++ stages c

end Schedule

namespace ArtifactStore

theorem artifact_relative (s : ArtifactStore) (key : ArtifactKey) :
    (s.artifact key).relative = Schedule.file key "" := by
  have hname : artifactStem key.binary none ++ "." ++ artifactExtension =
      key.binary ++ "" ++ ".ofta" := by
    simp [artifactStem, artifactExtension, ← String.toList_inj]
  exact congrArg (key.package.push buildDirectory).push hname

theorem generation_relative (s : ArtifactStore) (key : ArtifactKey) (n : Nat) :
    (s.generation key n).relative = Schedule.file key ("-" ++ toString n) := by
  have hname : artifactStem key.binary (some n) ++ "." ++ artifactExtension =
      key.binary ++ ("-" ++ toString n) ++ ".ofta" := by
    simp [artifactStem, artifactExtension, ← String.toList_inj]
  exact congrArg (key.package.push buildDirectory).push hname

end ArtifactStore

section

variable (c : Config) (runner : Runner σ)

theorem silent_locate (env : Environment) :
    Silent (do
      match ToolchainSource.locate (← Task.files) (← Task.here) env c.toolchain with
      | some path => return path
      | none => Task.fail (.toolchainMissing c.toolchain.executable) : StageTask σ Path) := by
  refine silent_files.bind fun fs => silent_here.bind fun cwd => ?_
  split
  · exact silent_pure _
  · exact silent_fail _

theorem follows_prepare (env : Environment) :
    Follows (Pipeline.prepare c env runner) (Schedule.nativeBuild c) := by
  have hlocate := silent_locate (σ := σ) c env
  unfold Pipeline.prepare Schedule.nativeBuild
  -- How the program is looked for does not matter here, and must not be unfolded.
  generalize ToolchainSource.locate = locate at hlocate ⊢
  cases htoolchain : c.toolchain with
  | build directory =>
      rw [htoolchain] at hlocate
      refine Follows.silent_bind (silent_announce _ _ _) fun _ => ?_
      refine (follows_command c runner _ _).bind fun _ => ?_
      refine (follows_command c runner _ _).bind fun _ => ?_
      exact (follows_command c runner _ _).bind_silent fun _ => hlocate
  | prebuilt path =>
      rw [htoolchain] at hlocate
      exact hlocate.follows
  | system =>
      rw [htoolchain] at hlocate
      exact hlocate.follows

theorem follows_generatePrelude :
    Follows (Pipeline.generatePrelude c runner) [Schedule.prelude c] := by
  unfold Pipeline.generatePrelude
  refine Follows.silent_bind (silent_announce _ _ _) fun _ => ?_
  exact (follows_command c runner _ _).bind_silent fun _ => silent_pure _

theorem follows_expand (mode : SelfTestMode) :
    Follows (SelfTest.expand c runner mode)
      [Schedule.toolchain c
        (Schedule.expander c mode ++ Schedule.expansion c c.selfTest.package c.selfTest.binary)
        (Schedule.into c (Schedule.file c.selfTest ""))] := by
  have hprogram : (SelfTest.program c).path = c.root.join (Schedule.file c.selfTest "") := by
    rw [← c.store.artifact_relative c.selfTest]
    rfl
  unfold SelfTest.expand Schedule.into
  rw [← hprogram]
  cases mode with
  | source =>
      exact (follows_command c runner _ _).bind_silent fun _ => silent_artifacts _
  | prebuilt =>
      have hexpander := c.store.artifact_relative c.expander
      refine Follows.silent_bind (silent_artifacts _) fun _ => ?_
      unfold Schedule.expander Schedule.fromArtifact
      rw [← hexpander]
      exact (follows_command c runner _ _).bind_silent fun _ => silent_artifacts _

theorem follows_runCase (mode : SelfTestMode) (case : SelfTestCase) :
    Follows (SelfTest.runCase c runner mode case) (Schedule.selfTestCase c mode case) := by
  have hprogram := c.store.artifact_relative c.selfTest
  unfold SelfTest.runCase Schedule.selfTestCase
  refine (follows_expand c runner mode).bind fun _ => ?_
  rw [← hprogram]
  refine (follows_command c runner _ _).bind_silent fun output => ?_
  split
  · exact silent_fail _
  · exact silent_log _ _ _ _

theorem follows_runCases (mode : SelfTestMode) (cases : List SelfTestCase) :
    Follows (SelfTest.runCases c runner mode cases)
      (cases.flatMap (Schedule.selfTestCase c mode)) := by
  induction cases with
  | nil => exact (silent_pure _).follows
  | cons case rest ih =>
      rw [List.flatMap_cons]
      refine (follows_runCase c runner mode case).bind fun _ => ?_
      exact ih.bind_silent fun _ => silent_pure _

theorem follows_selfTest (mode : SelfTestMode) :
    Follows (SelfTest.run c runner mode) (Schedule.selfTest c mode) := by
  refine Follows.silent_bind (silent_announce _ _ _) fun _ => ?_
  exact (follows_runCases c runner mode SelfTest.cases).bind_silent fun _ => silent_pure _

/-- Nothing is issued behind the comparison. -/
theorem silent_conclude (r : Fixpoint.Comparison) :
    Silent (Fixpoint.conclude c r : StageTask σ FixpointReport) := by
  have hpromote : Silent (Fixpoint.promote c r.third : StageTask σ Unit) := by
    unfold Fixpoint.promote StageTask.promote
    refine Silent.bind ((silent_artifacts _).bind fun _ => silent_log _ _ _ _) fun _ => ?_
    refine Silent.bind (silent_artifacts _) fun _ => ?_
    exact Silent.bind (silent_artifacts _) fun _ => silent_log _ _ _ _
  unfold Fixpoint.conclude
  split
  · split
    · refine Silent.bind (silent_log _ _ _ _) fun _ => ?_
      exact hpromote.bind fun _ => silent_pure _
    · exact hpromote.bind fun _ => silent_pure _
  · exact silent_fail _

theorem silent_requirePrelude : Silent (Fixpoint.requirePrelude c : StageTask σ Unit) := by
  refine silent_files.bind fun fs => silent_here.bind fun cwd => ?_
  split
  · exact silent_pure _
  · exact silent_fail _

theorem silent_compare : Silent (Fixpoint.compare c : StageTask σ Fixpoint.Comparison) := by
  refine Silent.bind (silent_artifacts _) fun _ => ?_
  refine Silent.bind (silent_artifacts _) fun _ => ?_
  refine Silent.bind (silent_artifacts _) fun _ => ?_
  exact Silent.bind (silent_artifacts _) fun _ => silent_pure _

theorem follows_nativeCompile :
    Follows (Fixpoint.nativeCompile c runner)
      [Schedule.toolchain c
        ["compile", "--std", c.standardLibrary.text, c.expander.package.text, c.expander.binary]
        .inherit] := by
  refine Follows.silent_bind (silent_artifacts _) fun _ => ?_
  exact follows_produce c runner _ _ _

theorem follows_selfCompile (compiler output : Artifact) :
    Follows (Fixpoint.selfCompile c runner compiler output)
      [Schedule.toolchain c
        (["interpret", compiler.relative.text] ++
          Schedule.expansion c c.expander.package c.expander.binary)
        (.file output.path)] :=
  follows_produce c runner _ _ _

theorem follows_verify : Follows (Fixpoint.verify c runner) (Schedule.fixpoint c) := by
  have hfirst : (Fixpoint.first c).relative = Schedule.file c.expander "" :=
    c.store.artifact_relative c.expander
  have hsecond : (Fixpoint.second c).relative = Schedule.file c.expander "-2" :=
    c.store.generation_relative c.expander 2
  have hthird : (Fixpoint.third c).relative = Schedule.file c.expander "-3" :=
    c.store.generation_relative c.expander 3
  have hpath : ∀ a : Artifact, a = Fixpoint.second c ∨ a = Fixpoint.third c →
      a.path = c.root.join a.relative := by
    rintro a (rfl | rfl) <;> rfl
  have hselfCompile₂ := follows_selfCompile c runner (Fixpoint.first c) (Fixpoint.second c)
  have hselfCompile₃ := follows_selfCompile c runner (Fixpoint.second c) (Fixpoint.third c)
  rw [hfirst, hpath _ (.inl rfl), hsecond] at hselfCompile₂
  rw [hsecond, hpath _ (.inr rfl), hthird] at hselfCompile₃
  refine Follows.silent_bind (silent_announce _ _ _) fun _ => ?_
  refine Follows.bind_silent ?_ fun r => silent_conclude c r
  refine Follows.silent_bind (silent_requirePrelude c) fun _ => ?_
  refine (follows_nativeCompile c runner).bind fun _ => ?_
  refine hselfCompile₂.bind fun _ => ?_
  exact hselfCompile₃.bind_silent fun _ => silent_compare c

theorem follows_compileAuxiliary (binary : String) :
    Follows (Pipeline.compileAuxiliary c runner binary) [Schedule.auxiliary c binary] := by
  have hexpander := c.store.artifact_relative c.expander
  have houtput := c.store.artifact_relative ⟨c.expander.package, binary⟩
  unfold Pipeline.compileAuxiliary Schedule.auxiliary Schedule.into Schedule.fromArtifact
  rw [← hexpander, ← houtput]
  refine (follows_command c runner _ _).bind_silent fun _ => ?_
  exact Silent.bind (silent_artifacts _) fun _ => silent_pure _

theorem follows_compileEach (binaries : List String) :
    Follows (Pipeline.compileEach c runner binaries) (binaries.map (Schedule.auxiliary c)) := by
  induction binaries with
  | nil => exact (silent_pure _).follows
  | cons binary rest ih =>
      refine (follows_compileAuxiliary c runner binary).bind fun _ => ?_
      exact ih.bind_silent fun _ => silent_pure _

theorem follows_compileAuxiliaries :
    Follows (Pipeline.compileAuxiliaries c runner) (c.auxiliaries.map (Schedule.auxiliary c)) := by
  refine Follows.silent_bind (silent_announce _ _ _) fun _ => ?_
  refine Follows.silent_bind (silent_artifacts _) fun _ => ?_
  exact follows_compileEach c runner c.auxiliaries

/-- An auxiliary compilation that succeeded is one command, and its artifact was there behind it. -/
theorem compileAuxiliary_cut {binary : String} {p : Path} {cwd : Location} {s s' : Session σ}
    (h : (Pipeline.compileAuxiliary c runner binary).run cwd s = (.ok p, s')) :
    p = (c.store.artifact ⟨c.expander.package, binary⟩).relative ∧
      s'.files.isFile cwd (c.store.artifact ⟨c.expander.package, binary⟩).path = true ∧
      ∃ o, (StageTask.command c runner
          (c.selectedToolchain.interpret (c.store.artifact c.expander)
            (c.expansionArguments ⟨c.expander.package, binary⟩))
          (.file (c.store.artifact ⟨c.expander.package, binary⟩).path)).run cwd s = (.ok o, s') := by
  unfold Pipeline.compileAuxiliary at h
  obtain ⟨o, s₁, hcommand, h⟩ := Task.run_bind_eq_ok_iff.1 h
  obtain ⟨_, s₂, hrequire, h⟩ := Task.run_bind_eq_ok_iff.1 h
  cases h
  obtain ⟨rfl, hfile⟩ := StageTask.require_eq_ok hrequire
  exact ⟨rfl, hfile, o, hcommand⟩

/-- Auxiliary compilations that succeeded began with the expander's artifact in place. -/
theorem compileAuxiliaries_cut {paths : List Path} {cwd : Location} {s s' : Session σ}
    (h : (Pipeline.compileAuxiliaries c runner).run cwd s = (.ok paths, s')) :
    ∃ s₁, s₁.files = s.files ∧ s₁.turns = s.turns ∧
      s₁.files.isFile cwd (c.store.artifact c.expander).path = true ∧
      (Pipeline.compileEach c runner c.auxiliaries).run cwd s₁ = (.ok paths, s') := by
  unfold Pipeline.compileAuxiliaries at h
  obtain ⟨_, s₁, hannounce, hrest⟩ := Task.run_bind_eq_ok_iff.1 h
  obtain ⟨_, s₂, hrequire, heach⟩ := Task.run_bind_eq_ok_iff.1 hrest
  obtain ⟨rfl, hfile⟩ := StageTask.require_eq_ok hrequire
  have hsame : s₂.files = s.files ∧ s₂.turns = s.turns := by
    cases hannounce
    exact ⟨rfl, rfl⟩
  exact ⟨s₂, hsame.1, hsame.2, hfile, heach⟩

theorem follows_run : Follows (Pipeline.run c runner) (Schedule.stages c) := by
  refine (follows_generatePrelude c runner).bind fun _ => ?_
  refine (follows_selfTest c runner .source).bind fun _ => ?_
  refine (follows_verify c runner).bind fun _ => ?_
  refine (follows_selfTest c runner .prebuilt).bind fun _ => ?_
  refine (follows_compileAuxiliaries c runner).bind_silent fun _ => ?_
  exact Silent.bind (silent_log _ _ _ _) fun _ => silent_pure _

theorem follows_complete (env : Environment) :
    Follows (Pipeline.complete c env runner) (Schedule.all c) :=
  (follows_prepare c runner env).bind fun _ =>
    (follows_run c runner).bind_silent fun _ => silent_pure _

/-- **Fixed schedule, and the first failure ends it.**  Whatever the files are and whatever the runner
answers, the commands of a bootstrap are the beginning of the schedule, and all of it if the
bootstrap succeeds.  Nothing is issued behind a command that failed, and its error is the outcome. -/
theorem complete_keeps_schedule (env : Environment) (cwd : Location) (s : Session σ) :
    ∃ turns, ((Pipeline.complete c env runner).run cwd s).2.turns = s.turns ++ turns ∧
      turns.map Turn.call <+: Schedule.all c ∧
      (∀ front t rest, turns = front ++ t :: rest → ¬ t.Succeeded →
        rest = [] ∧ ∃ p, t.result = .error p ∧
          ((Pipeline.complete c env runner).run cwd s).1 = .error (.process p)) ∧
      ∀ r, ((Pipeline.complete c env runner).run cwd s).1 = .ok r →
        turns.map Turn.call = Schedule.all c ∧ ∀ t ∈ turns, t.Succeeded := by
  obtain ⟨turns, hturns, hends⟩ := follows_complete c runner env cwd s
  refine ⟨turns, hturns, ?_⟩
  cases houtcome : ((Pipeline.complete c env runner).run cwd s).1 with
  | ok r =>
      rw [houtcome] at hends
      obtain ⟨hplan, hsucceeded⟩ := hends
      refine ⟨hplan ▸ List.prefix_rfl, ?_, fun _ _ => ⟨hplan, hsucceeded⟩⟩
      intro front t rest heq hfailed
      exact (hfailed (hsucceeded t (by simp [heq]))).elim
  | error e =>
      rw [houtcome] at hends
      obtain ⟨hplan, hhalts⟩ := hends
      refine ⟨hplan, ?_, by simp⟩
      intro front t rest heq hfailed
      subst heq
      obtain ⟨hrest, p, hresult, rfl⟩ := hhalts.last hfailed
      exact ⟨hrest, p, hresult, rfl⟩

end

end Bootstrap
