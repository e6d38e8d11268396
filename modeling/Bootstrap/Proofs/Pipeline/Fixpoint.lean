import Bootstrap.Pipeline.Fixpoint
import Bootstrap.Proofs.Artifact.Promotion
import Bootstrap.Proofs.Pipeline.Turns

/-!
# The fixpoint stage

The stage has two parts.  Up to the comparison it leaves the files to the commands, so
wherever it stops they are what the last command left.  Behind the comparison it can stop
at one point only, the copy, and then nothing is seen of that either.

* `compileThrice_cases` — what is known behind the comparison, and of every stop before it;
* `conclude_cases` — what becomes of the files behind the comparison.
-/

namespace Bootstrap.Fixpoint

open FileSystem

variable {σ : Type} {c : Config} {runner : Runner σ} {cwd : Location} {s s' : Session σ}
variable {t₁ t₂ t₃ : Turn} {x y z : Bytes} {fs : FileSystem}

/-- The command that has `compiler` compile the expander into `output`. -/
def selfCall (c : Config) (compiler output : Artifact) : Call :=
  ((c.selectedToolchain.interpret compiler (c.expansionArguments c.expander)).invocation,
    .file output.path)

/-- The command that has the native toolchain compile the expander. -/
def nativeCall (c : Config) : Call :=
  ((c.selectedToolchain.compile c.expander).invocation, .inherit)

/-- The prelude was there and three commands have compiled the expander. -/
structure Compiled (c : Config) (cwd : Location) (s s' : Session σ) (t₁ t₂ t₃ : Turn) : Prop where
  prelude : s.files.isFile cwd c.preludeFile = true
  turns : s'.turns = s.turns ++ [t₁, t₂, t₃]
  call₁ : t₁.call = nativeCall c
  call₂ : t₂.call = selfCall c (Fixpoint.first c) (Fixpoint.second c)
  call₃ : t₃.call = selfCall c (Fixpoint.second c) (Fixpoint.third c)
  first : t₁.Produced cwd (Fixpoint.first c)
  second : t₂.Produced cwd (Fixpoint.second c)
  third : t₃.Produced cwd (Fixpoint.third c)

/-- The three turns of a run that got to the comparison are those that its session shows. -/
theorem Compiled.turn_eq {u₁ u₂ u₃ : Turn} (h : Compiled c cwd s s' t₁ t₂ t₃)
    (hturns : s'.turns = s.turns ++ [u₁, u₂, u₃]) : t₁ = u₁ ∧ t₂ = u₂ ∧ t₃ = u₃ := by
  have := List.append_cancel_left (h.turns.symm.trans hturns)
  simpa using this

/-- Only the files at the beginning and the turns have a part in this. -/
theorem Compiled.congr {r r' : Session σ} (h : Compiled c cwd s s' t₁ t₂ t₃)
    (hfiles : r.files = s.files) (hturns : r.turns = s.turns) (hturns' : r'.turns = s'.turns) :
    Compiled c cwd r r' t₁ t₂ t₃ where
  prelude := by rw [hfiles, h.prelude]
  turns := by rw [hturns, hturns', h.turns]
  call₁ := h.call₁
  call₂ := h.call₂
  call₃ := h.call₃
  first := h.first
  second := h.second
  third := h.third

/-- What is read at the paths of the three artifacts. -/
structure Contents (c : Config) (cwd : Location) (fs : FileSystem) (x y z : Bytes) : Prop where
  first : (Fixpoint.first c).content.result cwd fs = (.ok x, fs)
  second : (Fixpoint.second c).content.result cwd fs = (.ok y, fs)
  third : (Fixpoint.third c).content.result cwd fs = (.ok z, fs)

theorem Contents.unique {x' y' z' : Bytes} (h : Contents c cwd fs x y z)
    (h' : Contents c cwd fs x' y' z') : x = x' ∧ y = y' ∧ z = z' := by
  have hx := h.first.symm.trans h'.first
  have hy := h.second.symm.trans h'.second
  have hz := h.third.symm.trans h'.third
  simp_all

/-- What a comparison of contents says. -/
def comparison (x y z : Bytes) : Comparison :=
  ⟨.ofBytes x, .ofBytes y, .ofBytes z, decide (y = z)⟩

/-- Digesting an artifact changes nothing, and fails exactly if the artifact cannot be read. -/
theorem run_digest (a : Artifact) (cwd : Location) (s : Session σ) :
    (∃ x, a.content.result cwd s.files = (.ok x, s.files) ∧
        (StageTask.artifacts a.digest : StageTask σ _).run cwd s = (.ok (.ofBytes x), s)) ∨
      ∃ e, (StageTask.artifacts a.digest : StageTask σ _).run cwd s = (.error (.artifact e), s) ∧
        ∀ x, a.content.result cwd s.files ≠ (.ok x, s.files) := by
  have hlooks := Artifact.looks_content a cwd s.files
  rw [StageTask.run_artifacts]
  rcases hcontent : a.content.result cwd s.files with ⟨e | x, fs⟩
  · obtain rfl : fs = s.files := by rwa [hcontent] at hlooks
    refine .inr ⟨e, ?_, by simp⟩
    rw [Artifact.digest, FileOp.result_bind_of_error hcontent]
    rfl
  · obtain rfl : fs = s.files := by rwa [hcontent] at hlooks
    refine .inl ⟨x, rfl, ?_⟩
    rw [Artifact.digest, FileOp.result_bind_of_ok hcontent]
    rfl

/-- The comparison changes nothing, and fails exactly if an artifact cannot be read. -/
theorem compare_cases (c : Config) (cwd : Location) (s : Session σ) :
    (∃ x y z, Contents c cwd s.files x y z ∧
        (compare c : StageTask σ _).run cwd s = (.ok (comparison x y z), s)) ∨
      ∃ e, (compare c : StageTask σ _).run cwd s = (.error (.artifact e), s) ∧
        ∀ x y z, ¬ Contents c cwd s.files x y z := by
  unfold compare
  rcases run_digest (first c) cwd s with ⟨x, hx, hrun₁⟩ | ⟨e, hrun₁, hno⟩
  · rcases run_digest (second c) cwd s with ⟨y, hy, hrun₂⟩ | ⟨e, hrun₂, hno⟩
    · rcases run_digest (third c) cwd s with ⟨z, hz, hrun₃⟩ | ⟨e, hrun₃, hno⟩
      · refine .inl ⟨x, y, z, ⟨hx, hy, hz⟩, ?_⟩
        have hidentical : (StageTask.artifacts ((second c).identical (third c)) : StageTask σ _).run
            cwd s = (.ok (decide (y = z)), s) := by
          rw [StageTask.run_artifacts, Artifact.identical_of_read hy hz]
          rfl
        rw [Task.run_bind_of_ok hrun₁, Task.run_bind_of_ok hrun₂, Task.run_bind_of_ok hrun₃,
          Task.run_bind_of_ok hidentical]
        rfl
      · refine .inr ⟨e, ?_, fun _ _ _ h => hno _ h.third⟩
        rw [Task.run_bind_of_ok hrun₁, Task.run_bind_of_ok hrun₂, Task.run_bind, hrun₃]
    · refine .inr ⟨e, ?_, fun _ _ _ h => hno _ h.second⟩
      rw [Task.run_bind_of_ok hrun₁, Task.run_bind, hrun₂]
  · refine .inr ⟨e, ?_, fun _ _ _ h => hno _ h.first⟩
    rw [Task.run_bind, hrun₁]

theorem run_requirePrelude (c : Config) (cwd : Location) (s : Session σ) :
    (requirePrelude c : StageTask σ Unit).run cwd s =
      (if s.files.isFile cwd c.preludeFile then .ok () else .error (.missingPrelude c.preludePath),
        s) := by
  have hpeel : (requirePrelude c : StageTask σ Unit).run cwd s =
      (if s.files.isFile cwd c.preludeFile then pure ()
        else Task.fail (.missingPrelude c.preludePath) : StageTask σ Unit).run cwd s := rfl
  rw [hpeel]
  split <;> rfl

/-- The native compilation makes one turn, or stops in front of it and changes nothing. -/
theorem run_nativeCompile (c : Config) (runner : Runner σ) (cwd : Location) (s : Session σ) :
    (∃ e, (nativeCompile c runner).run cwd s = (.error (.artifact e), s)) ∨
      ∃ t s', t.call = nativeCall c ∧
        (nativeCompile c runner).run cwd s = (t.verdict cwd (first c), s') ∧
        s'.turns = s.turns ++ [t] ∧ s'.files = t.after := by
  unfold nativeCompile
  rcases hresult : (first c).discard.result cwd s.files with ⟨e | ⟨⟩, fs⟩
  · obtain rfl := Artifact.discard_eq_error hresult
    refine .inl ⟨e, ?_⟩
    rw [Task.run_bind, StageTask.run_artifacts, hresult]
    rfl
  · obtain ⟨s', hrun, hturns, hfiles⟩ := StageTask.run_produce c runner
      (c.selectedToolchain.compile c.expander) .inherit (first c) cwd { s with files := fs }
    refine .inr ⟨_, s', rfl, ?_, hturns, hfiles⟩
    rw [← hrun, Task.run_bind, StageTask.run_artifacts, hresult]
    rfl

/-- A self-compilation makes one turn. -/
theorem run_selfCompile (c : Config) (runner : Runner σ) (compiler output : Artifact)
    (cwd : Location) (s : Session σ) :
    ∃ t s', t.call = selfCall c compiler output ∧
      (selfCompile c runner compiler output).run cwd s = (t.verdict cwd output, s') ∧
      s'.turns = s.turns ++ [t] ∧ s'.files = t.after := by
  obtain ⟨s', hrun, hturns, hfiles⟩ := StageTask.run_produce c runner
    (c.selectedToolchain.interpret compiler (c.expansionArguments c.expander)) (.file output.path)
    output cwd s
  exact ⟨_, s', rfl, hrun, hturns, hfiles⟩

/-- A self-compilation that succeeded has left its artifact. -/
theorem selfCompile_eq_ok {compiler output : Artifact}
    (h : (selfCompile c runner compiler output).run cwd s = (.ok (), s')) :
    s'.turns = s.turns ++ [runner.turn (selfCall c compiler output) cwd s] ∧
      s'.files = (runner.turn (selfCall c compiler output) cwd s).after ∧
      (runner.turn (selfCall c compiler output) cwd s).Produced cwd output := by
  obtain ⟨after, hrun, hturns, hfiles⟩ := StageTask.run_produce c runner
    (c.selectedToolchain.interpret compiler (c.expansionArguments c.expander)) (.file output.path)
    output cwd s
  obtain ⟨hverdict, rfl⟩ := Prod.mk.inj (hrun.symm.trans h)
  exact ⟨hturns, hfiles, Turn.verdict_eq_ok_iff.1 hverdict⟩

/-- The first part of the stage has stopped in front of the comparison.  It is not because of a
violation, and the files are what the last command left. -/
structure Stopped (c : Config) (cwd : Location) (s s' : Session σ) (e : BootstrapError) : Prop where
  ordinary : ¬ e.IsViolation
  since : s.Since s'
  incomplete : ∀ t₁ t₂ t₃ x y z, Compiled c cwd s s' t₁ t₂ t₃ → ¬ Contents c cwd t₃.after x y z

/-- Who has made fewer than three turns has stopped. -/
theorem stopped_of_length {new : List Turn} {e : BootstrapError} (hordinary : ¬ e.IsViolation)
    (hturns : s'.turns = s.turns ++ new) (hfiles : s'.files = Session.leftBy s.files new)
    (hlength : new.length < 3) : Stopped c cwd s s' e where
  ordinary := hordinary
  since := ⟨new, hturns, hfiles⟩
  incomplete := by
    intro t₁ t₂ t₃ x y z hcompiled
    have hnew := List.append_cancel_left (hcompiled.turns.symm.trans hturns)
    rw [← hnew] at hlength
    simp at hlength

/-- **The first part of the stage.**  It gets to the comparison exactly if the prelude was there,
three commands have compiled the expander and the artifacts can be read. -/
theorem compileThrice_cases (c : Config) (runner : Runner σ) (cwd : Location) (s : Session σ) :
    (∃ s' t₁ t₂ t₃ x y z, Compiled c cwd s s' t₁ t₂ t₃ ∧ Contents c cwd t₃.after x y z ∧
        s'.files = t₃.after ∧
        (compileThrice c runner).run cwd s = (.ok (comparison x y z), s')) ∨
      ∃ e s', (compileThrice c runner).run cwd s = (.error e, s') ∧ Stopped c cwd s s' e := by
  unfold compileThrice
  have hprelude := run_requirePrelude c cwd s
  by_cases hfile : s.files.isFile cwd c.preludeFile = true
  case neg =>
    refine .inr ⟨.missingPrelude c.preludePath, s, ?_, ?_, .refl s, ?_⟩
    · rw [Task.run_bind, hprelude, if_neg hfile]
    · simp [BootstrapError.IsViolation]
    · exact fun _ _ _ _ _ _ h => (hfile h.prelude).elim
  rw [if_pos hfile] at hprelude
  rw [Task.run_bind_of_ok hprelude]
  rcases run_nativeCompile c runner cwd s with ⟨e, hrun⟩ | ⟨t₁, s₁, hcall₁, hrun₁, hturns₁, hfiles₁⟩
  · exact .inr ⟨.artifact e, s, by rw [Task.run_bind, hrun],
      stopped_of_length (by simp) (List.append_nil _).symm rfl (by simp)⟩
  cases hverdict₁ : t₁.verdict cwd (first c) with
  | error e =>
      rw [hverdict₁] at hrun₁
      exact .inr ⟨e, s₁, by rw [Task.run_bind, hrun₁],
        stopped_of_length (Turn.verdict_ne_violation hverdict₁) hturns₁ hfiles₁ (by simp)⟩
  | ok u₁ =>
  rw [hverdict₁] at hrun₁
  rw [Task.run_bind_of_ok hrun₁]
  obtain ⟨t₂, s₂, hcall₂, hrun₂, hturns₂, hfiles₂⟩ :=
    run_selfCompile c runner (first c) (second c) cwd s₁
  rw [hturns₁, List.append_assoc] at hturns₂
  cases hverdict₂ : t₂.verdict cwd (second c) with
  | error e =>
      rw [hverdict₂] at hrun₂
      exact .inr ⟨e, s₂, by rw [Task.run_bind, hrun₂],
        stopped_of_length (Turn.verdict_ne_violation hverdict₂) hturns₂ hfiles₂ (by simp)⟩
  | ok u₂ =>
  rw [hverdict₂] at hrun₂
  rw [Task.run_bind_of_ok hrun₂]
  obtain ⟨t₃, s₃, hcall₃, hrun₃, hturns₃, hfiles₃⟩ :=
    run_selfCompile c runner (second c) (third c) cwd s₂
  rw [hturns₂, List.append_assoc] at hturns₃
  have hsince : s.Since s₃ := ⟨_, hturns₃, hfiles₃⟩
  cases hverdict₃ : t₃.verdict cwd (third c) with
  | error e =>
      rw [hverdict₃] at hrun₃
      refine .inr ⟨e, s₃, by rw [Task.run_bind, hrun₃], Turn.verdict_ne_violation hverdict₃,
        hsince, ?_⟩
      intro u₁ u₂ u₃ x y z hcompiled
      obtain ⟨_, _, rfl⟩ := hcompiled.turn_eq hturns₃
      rw [Turn.verdict_eq_ok_iff.2 hcompiled.third] at hverdict₃
      cases hverdict₃
  | ok u₃ =>
  rw [hverdict₃] at hrun₃
  rw [Task.run_bind_of_ok hrun₃]
  rcases compare_cases c cwd s₃ with ⟨x, y, z, hcontents, hrun⟩ | ⟨e, hrun, hno⟩
  · rw [hfiles₃] at hcontents
    refine .inl ⟨s₃, t₁, t₂, t₃, x, y, z, ?_, hcontents, hfiles₃, hrun⟩
    exact ⟨hfile, hturns₃, hcall₁, hcall₂, hcall₃, Turn.verdict_eq_ok_iff.1 hverdict₁,
      Turn.verdict_eq_ok_iff.1 hverdict₂, Turn.verdict_eq_ok_iff.1 hverdict₃⟩
  · refine .inr ⟨.artifact e, s₃, hrun, by simp, hsince, ?_⟩
    intro u₁ u₂ u₃ x y z hcompiled
    obtain ⟨_, _, rfl⟩ := hcompiled.turn_eq hturns₃
    rw [← hfiles₃]
    exact hno x y z

/-- Artifacts that can be read stand in one directory. -/
theorem Contents.standing (h : Contents c cwd fs x y z) :
    ∃ parent n₁ n₂ n₃,
      Standing fs cwd (Fixpoint.first c) (Fixpoint.second c) (Fixpoint.third c) parent n₁ n₂ n₃ := by
  obtain ⟨_, hx, _⟩ := Artifact.result_content_eq_ok_iff.1 h.first
  obtain ⟨_, hy, _⟩ := Artifact.result_content_eq_ok_iff.1 h.second
  obtain ⟨_, hz, _⟩ := Artifact.result_content_eq_ok_iff.1 h.third
  obtain ⟨parent, names, hinj, hstands⟩ := ArtifactStore.stands_of_read (v := none) hx
  have hne : ∀ u w, u ≠ w → names u ≠ names w := fun u w h heq => h (hinj u w heq)
  exact ⟨parent, names none, names (some 2), names (some 3), hstands _ _ hx, hstands _ _ hy,
    hstands _ _ hz, hne _ _ (by decide), hne _ _ (by decide), hne _ _ (by decide)⟩

/-- **Behind the comparison** of equal artifacts, the stage stops at the copy and nothing is seen of
it, or the copy is in place and the generations are gone. -/
theorem run_promote {parent : Location} {n₁ n₂ n₃ : String} (d : ContentDigest)
    (hstanding : Standing s.files cwd (first c) (second c) (third c) parent n₁ n₂ n₃)
    (hfile : s.files.isFile cwd (third c).path = true)
    (hnull₂ : (second c).path.hasNull = false) (hnull₃ : (third c).path.hasNull = false) :
    (∃ e s', (promote c d : StageTask σ Unit).run cwd s = (.error (.artifact e), s') ∧
        s'.turns = s.turns ∧ Restored s.files s'.files) ∨
      ∃ s' content mode, (promote c d : StageTask σ Unit).run cwd s = (.ok (), s') ∧
        s'.turns = s.turns ∧
        Settled s.files s'.files (parent ++ [n₁]) (parent ++ [n₂]) (parent ++ [n₃]) content mode ∧
        (∀ x, s.files.read cwd (third c).path = .ok x → x = content) ∧
        (∀ entry, s.files.stat cwd (third c).path = .ok entry → entry.mode = mode) ∧
        ∀ p up name, s.files.Names cwd p up name → s'.files.Names cwd p up name := by
  rcases hstanding.promotion hfile hnull₂ hnull₃ with
    ⟨e, after, hpromote, hrestored⟩ |
      ⟨copied, cut, after, content, mode, hpromote, hremove₂, hremove₃, hsettled, hread, hstat, hnames⟩
  · refine .inl ⟨e, { s with files := after }, ?_, rfl, hrestored⟩
    unfold promote StageTask.promote
    rw [Task.run_bind, Task.run_bind, StageTask.run_artifacts, hpromote]
    rfl
  · obtain ⟨s₁, hrun₁, hturns₁, hfiles₁⟩ : ∃ s₁,
        (StageTask.promote (third c) (first c) : StageTask σ Unit).run cwd s = (.ok (), s₁) ∧
          s₁.turns = s.turns ∧ s₁.files = copied := by
      unfold StageTask.promote
      rw [Task.run_bind_of_ok (StageTask.run_artifacts_of_ok hpromote), Task.run_log]
      exact ⟨_, rfl, rfl, rfl⟩
    rw [← hfiles₁] at hremove₂
    have hrun₂ : (StageTask.artifacts (second c).remove).run cwd s₁ =
        (.ok (), { s₁ with files := cut }) := StageTask.run_artifacts_of_ok hremove₂
    have hrun₃ : (StageTask.artifacts (third c).remove).run cwd { s₁ with files := cut } =
        (.ok (), { s₁ with files := after }) := StageTask.run_artifacts_of_ok hremove₃
    obtain ⟨s', hrun, hturns, hfiles⟩ : ∃ s',
        (promote c d : StageTask σ Unit).run cwd s = (.ok (), s') ∧
          s'.turns = s.turns ∧ s'.files = after := by
      unfold promote
      rw [Task.run_bind_of_ok hrun₁, Task.run_bind_of_ok hrun₂, Task.run_bind_of_ok hrun₃,
        Task.run_log]
      exact ⟨_, rfl, hturns₁, rfl⟩
    rw [← hfiles] at hsettled hnames
    exact .inr ⟨s', content, mode, hrun, hturns, hsettled, hread, hstat, hnames⟩

/-- The report on a fixpoint: `x` is what the native toolchain gave, `y` what the expander gave of
itself. -/
def reportOf (c : Config) (x y : Bytes) : FixpointReport where
  first := ⟨(first c).relative, .ofBytes x⟩
  second := ⟨(second c).relative, .ofBytes y⟩
  third := ⟨(third c).relative, .ofBytes y⟩
  firstMatchesSecond := ContentDigest.ofBytes x = ContentDigest.ofBytes y
  promoted := (first c).relative

/-- The error that says that the second and the third compilation differ. -/
def violation (c : Config) (y z : Bytes) : BootstrapError :=
  .notIdempotent c.expander.binary (second c).relative (third c).relative (.ofBytes y) (.ofBytes z)

/-- Artifacts that differ are left where they are. -/
theorem run_conclude_of_ne (h : y ≠ z) :
    (conclude c (comparison x y z) : StageTask σ _).run cwd s = (.error (violation c y z), s) := by
  unfold conclude comparison
  simp only [h, decide_false, Bool.false_eq_true, if_false]
  rfl

/-- Artifacts that agree are promoted. -/
theorem run_conclude_of_eq (c : Config) (x y : Bytes) (cwd : Location) (s : Session σ) :
    ∃ s₁ : Session σ, s₁.files = s.files ∧ s₁.turns = s.turns ∧
      (conclude c (comparison x y y) : StageTask σ _).run cwd s =
        match (promote c (.ofBytes y) : StageTask σ Unit).run cwd s₁ with
        | (.ok (), s') => (.ok (reportOf c x y), s')
        | (.error e, s') => (.error e, s') := by
  unfold conclude comparison
  simp only [decide_true, if_true]
  by_cases h : ContentDigest.ofBytes x = ContentDigest.ofBytes y
  · refine ⟨s, rfl, rfl, ?_⟩
    rw [if_neg (not_not_intro h), Task.run_bind]
    rcases (promote c (.ofBytes y) : StageTask σ Unit).run cwd s with ⟨e | ⟨⟩, s'⟩ <;> rfl
  · obtain ⟨s₁, hwarn, hfiles, hturns⟩ : ∃ s₁ : Session σ,
        (warnDifferent (.ofBytes x) (.ofBytes y) : StageTask σ Unit).run cwd s = (.ok (), s₁) ∧
          s₁.files = s.files ∧ s₁.turns = s.turns := by
      unfold warnDifferent
      exact ⟨_, Task.run_log .., rfl, rfl⟩
    refine ⟨s₁, hfiles, hturns, ?_⟩
    rw [if_pos h, Task.run_bind_of_ok hwarn, Task.run_bind]
    rcases (promote c (.ofBytes y) : StageTask σ Unit).run cwd s₁ with ⟨e | ⟨⟩, s'⟩ <;> rfl

/-- What a promotion has made of the files `fs`: the first artifact is a file with the content and the
bits that the third one had, and the generations are gone. -/
structure Promoted (c : Config) (cwd : Location) (fs fs' : FileSystem) (content : Bytes)
    (parent : Location) (n₁ n₂ n₃ : String) : Prop where
  standing : Standing fs cwd (first c) (second c) (third c) parent n₁ n₂ n₃
  settled : ∃ mode, fs.stat cwd (third c).path = .ok (.file content mode) ∧
    Settled fs fs' (parent ++ [n₁]) (parent ++ [n₂]) (parent ++ [n₃]) content mode
  names : ∀ p up name, fs.Names cwd p up name → fs'.Names cwd p up name

/-- The four ways in which the stage ends. -/
inductive Ending (c : Config) (cwd : Location) (s : Session σ) :
    Except BootstrapError FixpointReport → Session σ → Prop
  | promoted {s' : Session σ} {t₁ t₂ t₃ : Turn} {x y : Bytes} {parent : Location} {n₁ n₂ n₃ : String}
      (compiled : Compiled c cwd s s' t₁ t₂ t₃) (contents : Contents c cwd t₃.after x y y)
      (promoted : Promoted c cwd t₃.after s'.files y parent n₁ n₂ n₃) :
      Ending c cwd s (.ok (reportOf c x y)) s'
  | differs {s' : Session σ} {t₁ t₂ t₃ : Turn} {x y z : Bytes}
      (compiled : Compiled c cwd s s' t₁ t₂ t₃) (contents : Contents c cwd t₃.after x y z)
      (hne : y ≠ z) (files : s'.files = t₃.after) :
      Ending c cwd s (.error (violation c y z)) s'
  | uncopied {s' : Session σ} {t₁ t₂ t₃ : Turn} {x y : Bytes} {e : ArtifactError}
      (compiled : Compiled c cwd s s' t₁ t₂ t₃) (contents : Contents c cwd t₃.after x y y)
      (restored : Restored t₃.after s'.files) :
      Ending c cwd s (.error (.artifact e)) s'
  | stopped {s' : Session σ} {e : BootstrapError} (stopped : Stopped c cwd s s' e) :
      Ending c cwd s (.error e) s'

/-- What `conclude` makes of artifacts that agree. -/
theorem ending_of_eq {s₁ : Session σ} (hcompiled : Compiled c cwd s s₁ t₁ t₂ t₃)
    (hcontents : Contents c cwd t₃.after x y y) (hfiles : s₁.files = t₃.after) :
    Ending c cwd s ((conclude c (comparison x y y)).run cwd s₁).1
      ((conclude c (comparison x y y)).run cwd s₁).2 := by
  obtain ⟨s₂, hfiles₂, hturns₂, hrun⟩ := run_conclude_of_eq c x y cwd s₁
  rw [hfiles] at hfiles₂
  obtain ⟨hnull₂, _, _⟩ := Artifact.result_content_eq_ok_iff.1 hcontents.second
  obtain ⟨hnull₃, hread₃, _⟩ := Artifact.result_content_eq_ok_iff.1 hcontents.third
  obtain ⟨parent, n₁, n₂, n₃, hstanding⟩ := hcontents.standing
  obtain ⟨content, mode, hstat⟩ := isFile_iff.1 hcompiled.third.2
  rw [hrun]
  rcases run_promote (.ofBytes y) (hfiles₂ ▸ hstanding) (hfiles₂ ▸ hcompiled.third.2) hnull₂ hnull₃ with
    ⟨e, s', hpromote, hturns, hrestored⟩ |
      ⟨s', content', mode', hpromote, hturns, hsettled, hread, hmode, hnames⟩
  · rw [hpromote]
    rw [hfiles₂] at hrestored
    exact .uncopied (hcompiled.congr rfl rfl (hturns.trans hturns₂)) hcontents hrestored
  · rw [hpromote]
    rw [hfiles₂] at hsettled hread hmode hnames
    have hmode' : mode = mode' := hmode _ hstat
    have hcontent : y = content' := hread y hread₃
    have hcontent' : content = y := by
      obtain ⟨entry, hentry, _, hcases⟩ := read_eq_ok_iff.1 hread₃
      rw [hstat] at hentry
      cases hentry
      rcases hcases with ⟨_, heq⟩ | ⟨_, ⟨_, _, heq⟩ | ⟨_, heq⟩⟩ <;> cases heq
      rfl
    subst hmode' hcontent hcontent'
    exact .promoted (hcompiled.congr rfl rfl (hturns.trans hturns₂)) hcontents
      ⟨hstanding, ⟨mode, hstat, hsettled⟩, hnames⟩

/-- **The stage ends in one of four ways.** -/
theorem verify_ends (c : Config) (runner : Runner σ) (cwd : Location) (s : Session σ) :
    Ending c cwd s ((verify c runner).run cwd s).1 ((verify c runner).run cwd s).2 := by
  obtain ⟨s₀, hannounce, hfiles₀, hturns₀⟩ : ∃ s₀ : Session σ,
      (StageTask.announce logSource .fixpoint [] : StageTask σ Unit).run cwd s = (.ok (), s₀) ∧
        s₀.files = s.files ∧ s₀.turns = s.turns :=
    ⟨_, Task.run_log .., rfl, rfl⟩
  unfold verify
  rw [Task.run_bind_of_ok hannounce, Task.run_bind]
  rcases compileThrice_cases c runner cwd s₀ with
    ⟨s₁, t₁, t₂, t₃, x, y, z, hcompiled, hcontents, hfiles, hrun⟩ | ⟨e, s₁, hrun, hstopped⟩
  · have hcompiled' := hcompiled.congr hfiles₀.symm hturns₀.symm rfl
    rw [hrun]
    by_cases hyz : y = z
    · subst hyz
      exact ending_of_eq hcompiled' hcontents hfiles
    · simp only [run_conclude_of_ne hyz]
      exact .differs hcompiled' hcontents hyz hfiles
  · rw [hrun]
    obtain ⟨new, hturns, hleft⟩ := hstopped.since
    refine .stopped ⟨hstopped.ordinary, ⟨new, ?_, ?_⟩, fun _ _ _ _ _ _ h => ?_⟩
    · rw [hturns, hturns₀]
    · rw [hleft, hfiles₀]
    · exact hstopped.incomplete _ _ _ _ _ _ (h.congr hfiles₀ hturns₀ rfl)

end Bootstrap.Fixpoint
