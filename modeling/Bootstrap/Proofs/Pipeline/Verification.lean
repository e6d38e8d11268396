import Bootstrap.Proofs.Pipeline.Fixpoint

/-!
# What a verified fixpoint guarantees

The stage is all or nothing.  A runner may answer as it likes and leave any files, links
among the three paths included.  If the stage succeeds, three entries of one directory
have changed since the last command, and the first of them is the artifact that was
verified.  If it fails, nothing has changed since the last command.

* `verify_promotes` — what is on disk and in the report after a success;
* `verify_all_or_nothing` — what is on disk after a failure, and when the failure is that
  the second and the third compilation differ.
-/

namespace Bootstrap.Fixpoint

open FileSystem

variable {σ : Type} {c : Config} {runner : Runner σ} {cwd : Location} {s s' : Session σ}
variable {report : FixpointReport}

/-- A verified and promoted fixpoint.  The files that the third command left are `t₃.after`; there
the three paths name entries of `directory`. -/
structure Verified (c : Config) (cwd : Location) (s s' : Session σ) (report : FixpointReport)
    (t₁ t₂ t₃ : Turn) (x y : Bytes) (mode : Nat) (directory : Location) (n₁ n₂ n₃ : String) :
    Prop where
  turns : s'.turns = s.turns ++ [t₁, t₂, t₃]
  read₁ : t₃.after.read cwd (first c).path = .ok x
  read₂ : t₃.after.read cwd (second c).path = .ok y
  read₃ : t₃.after.read cwd (third c).path = .ok y
  bits : t₃.after.stat cwd (third c).path = .ok (.file y mode)
  /-- The three paths name what they named before the promotion. -/
  named : ∀ fs ∈ [t₃.after, s'.files],
    fs.Names cwd (first c).path directory n₁ ∧ fs.Names cwd (second c).path directory n₂ ∧
      fs.Names cwd (third c).path directory n₃
  distinct : n₁ ≠ n₂ ∧ n₁ ≠ n₃ ∧ n₂ ≠ n₃
  /-- The canonical entry itself is a regular file, not a link to one. -/
  promoted : s'.files.entryAt? (directory ++ [n₁]) = some (.file y mode)
  readable : s'.files.read cwd (first c).path = .ok y
  removed₂ : s'.files.entryAt? (directory ++ [n₂]) = none
  removed₃ : s'.files.entryAt? (directory ++ [n₃]) = none
  frame : ∀ place, place ≠ directory ++ [n₁] → place ≠ directory ++ [n₂] →
    place ≠ directory ++ [n₃] → s'.files.entryAt? place = t₃.after.entryAt? place
  report₁ : report.first = ⟨(first c).relative, .ofBytes x⟩
  report₂ : report.second = ⟨(second c).relative, .ofBytes y⟩
  report₃ : report.third = ⟨(third c).relative, .ofBytes y⟩
  matches₁₂ : report.firstMatchesSecond = true ↔ report.first.digest = report.second.digest
  canonical : report.promoted = (first c).relative

/-- A file that stands in the place of the first artifact can be read if the third one could. -/
theorem read_of_promoted {fs : FileSystem} {y : Bytes} {mode : Nat} {directory : Location}
    {name : String} {p : Path} (hnames : fs.Names cwd p directory name)
    (hshort : ¬ nameLimit < name.utf8ByteSize)
    (hentry : fs.entryAt? (directory ++ [name]) = some (.file y mode))
    (hallows : (Entry.file y mode).allows 4 = true) : fs.read cwd p = .ok y := by
  obtain ⟨node, hnode, hplain⟩ := exists_plain_of_entryAt? hentry
  have hreach := hnames.reach_of_plain hshort hnode hplain
  exact read_eq_ok_iff.2 ⟨_, stat_eq_ok_iff.2 ⟨_, hreach, hentry⟩, hallows, .inl ⟨mode, rfl⟩⟩

/-- **Promotion soundness.**  Whatever the runner does, if the stage succeeds then the second and the
third artifact had the same bytes when the last command ended; the canonical entry is now a file
with these bytes and the bits of the third, the two generations are gone, and nothing else has
changed since. -/
theorem verify_promotes (h : (verify c runner).run cwd s = (.ok report, s')) :
    ∃ t₁ t₂ t₃ x y mode directory n₁ n₂ n₃,
      Verified c cwd s s' report t₁ t₂ t₃ x y mode directory n₁ n₂ n₃ := by
  have hends := verify_ends c runner cwd s
  rw [h] at hends
  cases hends with
  | @promoted _ t₁ t₂ t₃ x y directory n₁ n₂ n₃ hcompiled hcontents hpromoted =>
      obtain ⟨_, hread₁, _⟩ := Artifact.result_content_eq_ok_iff.1 hcontents.first
      obtain ⟨_, hread₂, _⟩ := Artifact.result_content_eq_ok_iff.1 hcontents.second
      obtain ⟨_, hread₃, _⟩ := Artifact.result_content_eq_ok_iff.1 hcontents.third
      obtain ⟨hstanding, ⟨mode, hstat, hsettled⟩, hnames⟩ := hpromoted
      have hallows : (Entry.file y mode).allows 4 = true := by
        obtain ⟨entry, hentry, hallows, _⟩ := read_eq_ok_iff.1 hread₃
        rw [hstat] at hentry
        cases hentry
        exact hallows
      refine ⟨t₁, t₂, t₃, x, y, mode, directory, n₁, n₂, n₃, ?_⟩
      exact {
        turns := hcompiled.turns
        read₁ := hread₁
        read₂ := hread₂
        read₃ := hread₃
        bits := hstat
        named := by
          intro fs hfs
          have hnamed : fs = t₃.after ∨ fs = s'.files := by simpa using hfs
          rcases hnamed with rfl | rfl
          · exact ⟨hstanding.first.named, hstanding.second.named, hstanding.third.named⟩
          · exact ⟨hnames _ _ _ hstanding.first.named, hnames _ _ _ hstanding.second.named,
              hnames _ _ _ hstanding.third.named⟩
        distinct := ⟨hstanding.ne₁₂, hstanding.ne₁₃, hstanding.ne₂₃⟩
        promoted := hsettled.new
        readable := read_of_promoted (hnames _ _ _ hstanding.first.named) hstanding.first.short
          hsettled.new hallows
        removed₂ := hsettled.gone₂
        removed₃ := hsettled.gone₃
        frame := hsettled.frame
        report₁ := rfl
        report₂ := rfl
        report₃ := rfl
        matches₁₂ := by simp [reportOf]
        canonical := rfl }

/-- A configuration whose expander lies in the package `p`. -/
def sampleConfig : Config :=
  { Config.standard ⟨"/"⟩ with expander := ⟨⟨"p"⟩, "x"⟩, preludePath := ⟨"y"⟩ }

/-- A tree with the prelude and a directory for the artifacts. -/
def sampleFiles : FileSystem where
  nodes := [(["p"], .directory 0o755 0), (["p", "build"], .directory 0o755 0), (["y"], .file 0)]
  files := [(0, ⟨[], 0o644, 0⟩)]
  now := 0

/-- The sample files with the three artifacts.  The second is a link to the third. -/
def sampleArtifacts : FileSystem where
  nodes :=
    (["p", "build", "x.ofta"], .file 1) :: (["p", "build", "x-2.ofta"], .link "x-3.ofta") ::
      (["p", "build", "x-3.ofta"], .file 2) :: sampleFiles.nodes
  files := (1, ⟨[1], 0o644, 0⟩) :: (2, ⟨[2], 0o600, 0⟩) :: sampleFiles.files
  now := 0

/-- A runner whose every command leaves the three artifacts. -/
def sampleRunner : Runner Unit := fun _ _ _ _ _ => ⟨.ok .inherited, sampleArtifacts, (), []⟩

/-- The stage on the sample files. -/
def sampleRun : Except BootstrapError FixpointReport × Session Unit :=
  (verify sampleConfig sampleRunner).run [] (Session.start sampleFiles ())

/-- A run in which the second artifact is a link to the third promotes the third. -/
theorem sampleRun_promotes :
    ∃ report, sampleRun = (.ok report, sampleRun.2) ∧ ∃ t₁ t₂ t₃ x y mode directory n₁ n₂ n₃,
      Verified sampleConfig [] (Session.start sampleFiles ()) sampleRun.2 report
        t₁ t₂ t₃ x y mode directory n₁ n₂ n₃ := by
  obtain ⟨report, hrun⟩ := eq_of_isOk (show sampleRun.1.isOk = true by decide +kernel)
  exact ⟨report, hrun, verify_promotes hrun⟩

/-- **All or nothing.**  A failure leaves the files as the last command left them, or as they were if
there was none.  It is a violation exactly if the prelude was there, three commands have compiled
the expander, all artifacts can be read, and the second and the third differ. -/
theorem verify_all_or_nothing (c : Config) (runner : Runner σ) (cwd : Location) (s : Session σ) :
    (∀ e, ((verify c runner).run cwd s).1 = .error e →
      ∃ new, ((verify c runner).run cwd s).2.turns = s.turns ++ new ∧
        ∀ place, ((verify c runner).run cwd s).2.files.entryAt? place =
          (Session.leftBy s.files new).entryAt? place) ∧
    ∀ e, ((verify c runner).run cwd s).1 = .error e ∧ e.IsViolation ↔
      ∃ t₁ t₂ t₃ x y z, Compiled c cwd s ((verify c runner).run cwd s).2 t₁ t₂ t₃ ∧
        Contents c cwd t₃.after x y z ∧ y ≠ z ∧
        e = .notIdempotent c.expander.binary (second c).relative (third c).relative
          (.ofBytes y) (.ofBytes z) := by
  have hends := verify_ends c runner cwd s
  generalize ((verify c runner).run cwd s).1 = outcome at hends ⊢
  generalize ((verify c runner).run cwd s).2 = s' at hends ⊢
  cases hends with
  | @promoted _ t₁ t₂ t₃ x y _ _ _ _ hcompiled hcontents _ =>
      refine ⟨by simp, fun e => ⟨by simp, ?_⟩⟩
      rintro ⟨u₁, u₂, u₃, x', y', z', hcompiled', hcontents', hne, rfl⟩
      obtain ⟨rfl, rfl, rfl⟩ := hcompiled.turn_eq hcompiled'.turns
      obtain ⟨_, rfl, rfl⟩ := hcontents.unique hcontents'
      exact (hne rfl).elim
  | @differs _ t₁ t₂ t₃ x y z hcompiled hcontents hne hfiles =>
      refine ⟨?_, ?_⟩
      · intro e _
        exact ⟨[t₁, t₂, t₃], hcompiled.turns, fun place => by rw [hfiles]; rfl⟩
      · intro e
        constructor
        · rintro ⟨he, _⟩
          cases he
          exact ⟨t₁, t₂, t₃, x, y, z, hcompiled, hcontents, hne, rfl⟩
        · rintro ⟨u₁, u₂, u₃, x', y', z', hcompiled', hcontents', _, rfl⟩
          obtain ⟨rfl, rfl, rfl⟩ := hcompiled.turn_eq hcompiled'.turns
          obtain ⟨_, rfl, rfl⟩ := hcontents.unique hcontents'
          exact ⟨rfl, _, _, _, _, _, rfl⟩
  | @uncopied _ t₁ t₂ t₃ x y e hcompiled hcontents hrestored =>
      refine ⟨?_, ?_⟩
      · intro e' _
        exact ⟨[t₁, t₂, t₃], hcompiled.turns, hrestored.entryAt?⟩
      · intro e'
        constructor
        · rintro ⟨he, hviolation⟩
          cases he
          exact (BootstrapError.not_isViolation_artifact _ hviolation).elim
        · rintro ⟨u₁, u₂, u₃, x', y', z', hcompiled', hcontents', hne, rfl⟩
          obtain ⟨rfl, rfl, rfl⟩ := hcompiled.turn_eq hcompiled'.turns
          obtain ⟨_, rfl, rfl⟩ := hcontents.unique hcontents'
          exact (hne rfl).elim
  | @stopped _ e hstopped =>
      obtain ⟨new, hturns, hfiles⟩ := hstopped.since
      refine ⟨?_, ?_⟩
      · intro e' _
        exact ⟨new, hturns, fun place => by rw [hfiles]⟩
      · intro e'
        constructor
        · rintro ⟨he, hviolation⟩
          cases he
          exact (hstopped.ordinary hviolation).elim
        · rintro ⟨u₁, u₂, u₃, x', y', z', hcompiled', hcontents', _⟩
          exact (hstopped.incomplete _ _ _ _ _ _ hcompiled' hcontents').elim

end Bootstrap.Fixpoint
