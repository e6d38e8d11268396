import Bootstrap.Pipeline.Run
import Bootstrap.Process.System
import Bootstrap.Proofs.Digest.Text
import Bootstrap.Proofs.Notes

/-!
# Digests in the log of a bootstrap

A fixpoint is reported with three digests, and two lines of the log show digests by their first
characters.  Each of them is the digest of some content, so it can be cut behind twelve
characters.  A log line may be written anywhere, so the proof goes along the text of every
stage.

* `Note.ShowsDigests` — a note that shows digests by their first characters;
* `Host.shows_of_writes` — the runner on a host;
* `Fixpoint.tells_verify` — the fixpoint stage;
* `Pipeline.shows_complete` — the whole bootstrap.
-/

namespace Bootstrap

variable {σ α : Type}

/-- **The digest can be abbreviated**: it is that of some content, it can be cut behind its first twelve
characters, and they are what is shown of it. -/
structure ContentDigest.Abbreviates (d : ContentDigest) : Prop where
  content : ∃ content, d = .ofBytes content
  cut : d.short? = some d.front
  shown : d.short = d.front

theorem ContentDigest.abbreviates_ofBytes (content : Bytes) : (ofBytes content).Abbreviates where
  content := ⟨content, rfl⟩
  cut := (spells_ofBytes content).short?
  shown := (spells_ofBytes content).short

/-- The fields of the log that show digests. -/
def LogRecord.digestFields : List String := ["stage1", "stage2", "digest"]

/-- **The note shows digests by their first characters**: where a field of the log is for a digest, there
are the first twelve characters of a digest that can be abbreviated. -/
def Note.ShowsDigests : Note → Prop
  | .log record => ∀ field ∈ record.fields, field.1 ∈ LogRecord.digestFields →
      ∃ d : ContentDigest, d.Abbreviates ∧ field.2 = Text.Quoted.quote d.front
  | _ => True

/-- A record without a field for a digest. -/
theorem Note.shows_plain {record : LogRecord}
    (h : ∀ field ∈ record.fields, field.1 ∉ LogRecord.digestFields) :
    (Note.log record).ShowsDigests :=
  fun field hfield hdigest => (h field hfield hdigest).elim

namespace Host

/-! ### The runner on a host -/

variable {host : Host} {i : Invocation} {capture : Capture} {cwd : Location} {fs : FileSystem}

theorem shows_startNote (i : Invocation) : (startNote i).ShowsDigests :=
  Note.shows_plain (by simp [LogRecord.digestFields])

theorem shows_childNotes (capture : Capture) (r : ChildRun) :
    ∀ n ∈ childNotes capture r, n.ShowsDigests := by
  unfold childNotes
  rw [List.forall_mem_append]
  constructor <;> split <;> simp [Note.ShowsDigests]

theorem shows_failureNotes (i : Invocation) (s : ExitStatus) :
    ∀ n ∈ failureNotes i s, n.ShowsDigests :=
  List.forall_mem_singleton.2 (Note.shows_plain (by simp [LogRecord.digestFields]))

theorem shows_collected (i : Invocation) (capture : Capture) (output : Bytes) :
    ∀ n ∈ (collected i capture output).2, n.ShowsDigests := by
  have hdebug : ∀ message name value, name ∉ LogRecord.digestFields →
      ∀ n ∈ [debug message [(name, value)]], n.ShowsDigests := by
    intro message name value hname
    exact List.forall_mem_singleton.2 (Note.shows_plain (List.forall_mem_singleton.2 hname))
  unfold collected
  split
  · split
    · dsimp only
      split
      · exact List.forall_mem_nil _
      · exact hdebug _ _ _ (by decide)
    · exact List.forall_mem_nil _
  · exact hdebug _ _ _ (by decide)
  · exact List.forall_mem_nil _

/-- The notes on a program that was started. -/
theorem shows_started (i : Invocation) (capture : Capture) (r : ChildRun) :
    ∀ n ∈ startNote i :: childNotes capture r, n.ShowsDigests :=
  List.forall_mem_cons.2 ⟨shows_startNote i, shows_childNotes capture r⟩

theorem shows_runCollected : ∀ n ∈ (runCollected host i capture cwd fs).notes, n.ShowsDigests := by
  unfold runCollected
  split
  case h_1 => exact List.forall_mem_singleton.2 (shows_startNote i)
  case h_2 r _ =>
    dsimp only
    split
    · exact List.forall_mem_append.2 ⟨shows_started i capture r, shows_collected i capture _⟩
    · exact List.forall_mem_append.2 ⟨shows_started i capture r, shows_failureNotes i _⟩

theorem shows_runRedirected (destination : Path) :
    ∀ n ∈ (runRedirected host i destination cwd fs).notes, n.ShowsDigests := by
  have hstart : ∀ n ∈ [startNote i], n.ShowsDigests :=
    List.forall_mem_singleton.2 (shows_startNote i)
  unfold runRedirected
  dsimp only
  split
  case h_1 => exact hstart
  case h_2 staged _ =>
    split
    case h_1 => exact hstart
    case h_2 r _ =>
      have hstarted := shows_started i (.file destination) r
      split
      · split
        · exact hstarted
        · refine List.forall_mem_append.2 ⟨hstarted, List.forall_mem_singleton.2 (Note.shows_plain ?_)⟩
          simp [LogRecord.digestFields]
      · exact List.forall_mem_append.2 ⟨hstarted, shows_failureNotes i _⟩

/-- **What the runner on a host lets be seen shows no digest** except as it should. -/
theorem shows_of_writes {n : Note} (h : host.runner.Writes n) : n.ShowsDigests := by
  obtain ⟨i, capture, cwd, fs, _, hn⟩ := h
  cases capture with
  | file destination => exact shows_runRedirected destination n hn
  | _ => exact shows_runCollected n hn

end Host

/-- The notes of a run: those of the runner, and those that show digests as they should. -/
def Told (runner : Runner σ) (n : Note) : Prop := runner.Writes n ∨ n.ShowsDigests

variable {runner : Runner σ}

theorem told_plain {record : LogRecord}
    (h : ∀ field ∈ record.fields, field.1 ∉ LogRecord.digestFields) : Told runner (.log record) :=
  .inr (Note.shows_plain h)

/-- What such a field holds is the short form of a digest. -/
theorem ContentDigest.Abbreviates.field {d : ContentDigest} (h : d.Abbreviates) :
    ∃ d' : ContentDigest, d'.Abbreviates ∧ Text.Quoted.quote d.short = Text.Quoted.quote d'.front :=
  ⟨d, h, by rw [h.shown]⟩

/-- The task shows digests as it should, whatever it comes to. -/
abbrev Task.Shows {ε : Type} (runner : Runner σ) (t : Task σ ε α) : Prop :=
  t.Tells (Told runner) fun _ => True

namespace StageTask

theorem shows_announce (source : String) (stage : Stage) {more : List (String × String)}
    (h : ∀ field ∈ more, field.1 ∉ LogRecord.digestFields) :
    (announce source stage more : StageTask σ Unit).Shows runner := by
  refine Task.tells_note (told_plain fun field hfield => ?_)
  rcases List.mem_cons.1 hfield with rfl | hfield
  · change "stage" ∉ LogRecord.digestFields
    decide
  · exact h field hfield

theorem shows_command (c : Config) (command : Command) (capture : Capture) :
    (StageTask.command c runner command capture).Shows runner := by
  refine Task.Tells.mapError ?_ _
  refine (Task.tells_note (told_plain (List.forall_mem_nil _))).bind fun _ _ => ?_
  exact Task.tells_execute (fun n hn => .inl hn) (fun text => .inr trivial) _ _ _

theorem tells_artifacts {told : Note → Prop} {good : α → Prop} {op : FileOp ArtifactError α}
    (h : ∀ cwd fs a fs', op.result cwd fs = (.ok a, fs') → good a) :
    (artifacts op : StageTask σ α).Tells told good := by
  refine Task.tells_onFiles fun cwd fs a fs' hrun => ?_
  rw [FileOp.result_mapError, Prod.mk.injEq, FileOp.mapError_eq_ok_iff] at hrun
  exact h cwd fs a _ (Prod.ext hrun.1 rfl)

theorem shows_artifacts (op : FileOp ArtifactError α) :
    (artifacts op : StageTask σ α).Shows runner :=
  tells_artifacts fun _ _ _ _ _ => trivial

theorem shows_promote (a target : Artifact) :
    (StageTask.promote a target : StageTask σ Unit).Shows runner := by
  refine (shows_artifacts _).bind fun _ _ => ?_
  exact Task.tells_note (told_plain (by simp [LogRecord.digestFields]))

end StageTask

/-- The digests of a report. -/
def FixpointReport.digests (r : FixpointReport) : List ContentDigest :=
  [r.first.digest, r.second.digest, r.third.digest]

open StageTask

namespace Fixpoint

/-! ### The fixpoint stage -/

theorem shows_requirePrelude (c : Config) : (requirePrelude c : StageTask σ Unit).Shows runner := by
  refine Task.tells_files.bind fun fs _ => Task.tells_here.bind fun cwd _ => ?_
  split
  · exact Task.tells_pure trivial
  · exact Task.tells_fail _

theorem shows_nativeCompile (c : Config) : (nativeCompile c runner).Shows runner := by
  refine (shows_artifacts _).bind fun _ _ => (shows_command c _ _).bind fun _ _ => ?_
  exact shows_artifacts _

theorem shows_selfCompile (c : Config) (compiler output : Artifact) :
    (selfCompile c runner compiler output).Shows runner :=
  (shows_command c _ _).bind fun _ _ => shows_artifacts _

/-- All three digests can be abbreviated. -/
structure Comparison.Abbreviates (r : Comparison) : Prop where
  first : r.first.Abbreviates
  second : r.second.Abbreviates
  third : r.third.Abbreviates

theorem tells_digest (a : Artifact) :
    (StageTask.artifacts a.digest : StageTask σ _).Tells (Told runner) ContentDigest.Abbreviates := by
  refine tells_artifacts fun cwd fs d fs' hrun => ?_
  obtain ⟨content, middle, _, hpure⟩ := FileOp.result_bind_eq_ok_iff.1 hrun
  cases hpure
  exact ContentDigest.abbreviates_ofBytes content

theorem tells_compileThrice (c : Config) :
    (compileThrice c runner).Tells (Told runner) Comparison.Abbreviates := by
  refine (shows_requirePrelude c).bind fun _ _ => (shows_nativeCompile c).bind fun _ _ => ?_
  refine (shows_selfCompile c _ _).bind fun _ _ => (shows_selfCompile c _ _).bind fun _ _ => ?_
  refine (tells_digest _).bind fun x hx => (tells_digest _).bind fun y hy => ?_
  refine (tells_digest _).bind fun z hz => (shows_artifacts _).bind fun agree _ => ?_
  exact Task.tells_pure ⟨hx, hy, hz⟩

theorem shows_warnDifferent {x y : ContentDigest} (hx : x.Abbreviates) (hy : y.Abbreviates) :
    (warnDifferent x y : StageTask σ Unit).Shows runner := by
  refine Task.tells_note (.inr fun field hfield _ => ?_)
  rcases List.mem_cons.1 hfield with rfl | hfield
  · exact hx.field
  · obtain rfl := List.mem_singleton.1 hfield
    exact hy.field

theorem shows_promote (c : Config) {d : ContentDigest} (h : d.Abbreviates) :
    (promote c d : StageTask σ Unit).Shows runner := by
  refine (StageTask.shows_promote _ _).bind fun _ _ => ?_
  refine (shows_artifacts _).bind fun _ _ => (shows_artifacts _).bind fun _ _ => ?_
  refine Task.tells_note (.inr fun field hfield hdigest => ?_)
  rcases List.mem_cons.1 hfield with rfl | hfield
  · exact absurd hdigest (by simp [LogRecord.digestFields])
  · obtain rfl := List.mem_singleton.1 hfield
    exact h.field

theorem tells_conclude (c : Config) {r : Comparison} (h : r.Abbreviates) :
    (conclude c r : StageTask σ _).Tells (Told runner)
      fun report => ∀ d ∈ report.digests, d.Abbreviates := by
  have hreport : ∀ d ∈ [r.first, r.second, r.third], d.Abbreviates := by
    simp [h.first, h.second, h.third]
  unfold conclude
  split
  · dsimp only
    split
    · refine (shows_warnDifferent h.first h.second).bind fun _ _ => ?_
      exact (shows_promote c h.third).bind fun _ _ => Task.tells_pure hreport
    · exact (shows_promote c h.third).bind fun _ _ => Task.tells_pure hreport
  · exact Task.tells_fail _

/-- **The fixpoint stage reports digests of contents**, and logs them by their first characters. -/
theorem tells_verify (c : Config) :
    (verify c runner).Tells (Told runner) fun report => ∀ d ∈ report.digests, d.Abbreviates := by
  refine (shows_announce _ _ (List.forall_mem_nil _)).bind fun _ _ => ?_
  exact (tells_compileThrice c).bind fun r hr => tells_conclude c hr

end Fixpoint

namespace SelfTest

/-! ### The self-test and the whole bootstrap -/

theorem shows_expand (c : Config) (mode : SelfTestMode) : (expand c runner mode).Shows runner := by
  cases mode with
  | source => exact (shows_command c _ _).bind fun _ _ => shows_artifacts _
  | prebuilt =>
      refine (shows_artifacts _).bind fun _ _ => ?_
      exact (shows_command c _ _).bind fun _ _ => shows_artifacts _

theorem shows_runCase (c : Config) (mode : SelfTestMode) (case : SelfTestCase) :
    (runCase c runner mode case).Shows runner := by
  refine (shows_expand c mode).bind fun _ _ => (shows_command c _ _).bind fun output _ => ?_
  split
  · exact Task.tells_fail _
  · exact Task.tells_note (told_plain (by simp [LogRecord.digestFields]))

theorem shows_runCases (c : Config) (mode : SelfTestMode) (cases : List SelfTestCase) :
    (runCases c runner mode cases).Shows runner := by
  induction cases with
  | nil => exact Task.tells_pure trivial
  | cons case rest ih =>
      refine (shows_runCase c mode case).bind fun _ _ => ih.bind fun names _ => ?_
      exact Task.tells_pure trivial

theorem shows_run (c : Config) (mode : SelfTestMode) : (run c runner mode).Shows runner := by
  refine (shows_announce _ _ (List.forall_mem_nil _)).bind fun _ _ => ?_
  exact (shows_runCases c mode _).bind fun _ _ => Task.tells_pure trivial

end SelfTest

namespace Pipeline

theorem shows_prepare (c : Config) (env : Environment) : (prepare c env runner).Shows runner := by
  unfold prepare
  split
  · refine (shows_announce _ _ (List.forall_mem_nil _)).bind fun _ _ => ?_
    refine (shows_command c _ _).bind fun _ _ => (shows_command c _ _).bind fun _ _ => ?_
    refine (shows_command c _ _).bind fun _ _ => Task.tells_files.bind fun fs _ => ?_
    refine Task.tells_here.bind fun cwd _ => ?_
    split
    · exact Task.tells_pure trivial
    · exact Task.tells_fail _
  · refine Task.tells_files.bind fun fs _ => Task.tells_here.bind fun cwd _ => ?_
    split
    · exact Task.tells_pure trivial
    · exact Task.tells_fail _

theorem shows_generatePrelude (c : Config) : (generatePrelude c runner).Shows runner := by
  refine (shows_announce _ _ (List.forall_mem_nil _)).bind fun _ _ => ?_
  exact (shows_command c _ _).bind fun _ _ => Task.tells_pure trivial

theorem shows_compileAuxiliary (c : Config) (binary : String) :
    (compileAuxiliary c runner binary).Shows runner := by
  refine (shows_command c _ _).bind fun _ _ => (shows_artifacts _).bind fun _ _ => ?_
  exact Task.tells_pure trivial

theorem shows_compileEach (c : Config) (binaries : List String) :
    (compileEach c runner binaries).Shows runner := by
  induction binaries with
  | nil => exact Task.tells_pure trivial
  | cons binary rest ih =>
      refine (shows_compileAuxiliary c binary).bind fun path _ => ih.bind fun paths _ => ?_
      exact Task.tells_pure trivial

theorem shows_compileAuxiliaries (c : Config) : (compileAuxiliaries c runner).Shows runner := by
  refine (shows_announce _ _ (by simp [LogRecord.digestFields])).bind fun _ _ => ?_
  exact (shows_artifacts _).bind fun _ _ => shows_compileEach c _

/-- **The whole bootstrap reports digests of contents**, and logs them by their first characters. -/
theorem tells_run (c : Config) : (run c runner).Tells (Told runner)
    fun report => ∀ d ∈ report.fixpoint.digests, d.Abbreviates := by
  refine (shows_generatePrelude c).bind fun _ _ => (SelfTest.shows_run c _).bind fun _ _ => ?_
  refine (Fixpoint.tells_verify c).bind fun fixpoint hfixpoint => ?_
  refine (SelfTest.shows_run c _).bind fun _ _ => (shows_compileAuxiliaries c).bind fun _ _ => ?_
  refine (Task.tells_note (told_plain (List.forall_mem_nil _))).bind fun _ _ => ?_
  exact Task.tells_pure hfixpoint

theorem shows_complete (c : Config) (env : Environment) : (complete c env runner).Shows runner := by
  refine (shows_prepare c env).bind fun executable _ => (tells_run c).bind fun report _ => ?_
  exact Task.tells_pure trivial

end Pipeline

end Bootstrap
