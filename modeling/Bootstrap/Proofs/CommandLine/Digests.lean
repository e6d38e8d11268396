import Bootstrap.CommandLine.Run
import Bootstrap.Proofs.Archive.Inventory
import Bootstrap.Proofs.CommandLine.Shipping
import Bootstrap.Proofs.Pipeline.Digests
import Bootstrap.Proofs.Pipeline.Verification

/-!
# Where digests are shown

A digest comes up in three places: in the report on a fixpoint, in the report on an archive, and
in fields of the log.  Each of them is the digest of some content, so it can be abbreviated.

* `ArchiveSpec.tells_make` — the report on an archive;
* `CommandLine.told_of_mem_notes` — every note of a run of the program;
* `ContentDigest.abbreviates_safely` — **what digests are, and where they can be cut**.
-/

namespace Bootstrap

variable {σ α : Type} {runner : Runner σ}

namespace ArchiveSpec

/-! ### The archive -/

variable (spec : ArchiveSpec)

theorem shows_writing (op : FileOp IoError α) :
    (spec.writing op : Task σ PackageError α).Tells Note.ShowsDigests fun _ => True :=
  Task.tells_anyOnFiles _

theorem shows_foundBlocks (founds : List Found) :
    (spec.foundBlocks founds : Task σ PackageError _).Tells Note.ShowsDigests fun _ => True := by
  induction founds with
  | nil => exact Task.tells_pure trivial
  | cons found rest ih =>
      refine (spec.shows_writing _).bind fun blocks _ => ?_
      refine (Task.tells_note (Note.shows_plain (by simp [LogRecord.digestFields]))).bind fun _ _ => ?_
      exact ih.bind fun more _ => Task.tells_pure trivial

theorem shows_treeFound (skip : List Path) (tree : Path) :
    (spec.treeFound skip tree : Task σ PackageError _).Tells Note.ShowsDigests fun _ => True := by
  refine (spec.shows_writing _).bind fun base _ => (Task.tells_anyOnFiles _).bind fun founds _ => ?_
  exact Task.tells_pure trivial

theorem shows_treeBlocks (skip trees : List Path) :
    (spec.treeBlocks skip trees : Task σ PackageError _).Tells Note.ShowsDigests fun _ => True := by
  induction trees with
  | nil => exact Task.tells_pure trivial
  | cons tree rest ih =>
      refine (spec.shows_treeFound skip tree).bind fun founds _ => ?_
      refine (spec.shows_foundBlocks founds).bind fun blocks _ => ih.bind fun more _ => ?_
      exact Task.tells_pure trivial

theorem tells_fill (staged : Staged) : (spec.fill staged : Task σ PackageError _).Tells
    Note.ShowsDigests fun report => report.digest.Abbreviates := by
  refine (spec.shows_writing _).bind fun _ _ => (spec.shows_writing _).bind fun program _ => ?_
  refine (spec.shows_writing _).bind fun output _ => (spec.shows_writing _).bind fun own _ => ?_
  refine (spec.shows_treeBlocks _ _).bind fun blocks _ => ?_
  refine (spec.shows_writing _).bind fun _ _ => (spec.shows_writing _).bind fun _ _ => ?_
  refine (spec.shows_writing _).bind fun entry _ => (spec.shows_writing _).bind fun content _ => ?_
  refine (Task.tells_note (Note.shows_plain (by simp [LogRecord.digestFields]))).bind fun _ _ => ?_
  exact Task.tells_pure (ContentDigest.abbreviates_ofBytes content)

/-- **The digest in the report on an archive can be abbreviated.** -/
theorem tells_make : (spec.make : Task σ PackageError _).Tells Note.ShowsDigests
    fun report => report.digest.Abbreviates := by
  refine Task.tells_files.bind fun fs _ => Task.tells_here.bind fun cwd _ => ?_
  split
  · exact Task.tells_fail _
  · refine (spec.shows_writing _).bind fun staged _ => ?_
    exact (spec.tells_fill staged).orElseUndo (spec.shows_writing _)

end ArchiveSpec

namespace CommandLine

/-! ### The command line -/

theorem told_status (c : Console) (status : Status) (text : String) :
    Told runner (c.status status text) := by
  unfold Console.status
  dsimp only
  split <;> exact .inr trivial

/-- What a person is shown of a result is no log line. -/
theorem Item.told (item : Item) (c : Console) : Told runner (item.onConsole c) := by
  cases item with
  | stat label value => exact .inr trivial
  | info text => exact told_status c .info text
  | elapsed label => exact .inr trivial

namespace Setting

variable (s : Setting)

theorem shows_conclude (data : Data.Json) (headline : String) (items : List Item) :
    (s.conclude data headline items : Task σ Failure Unit).Shows runner := by
  unfold conclude
  split
  · exact Task.tells_note (.inr trivial)
  · refine (Task.tells_note (.inr trivial)).bind fun _ _ => ?_
    refine (Task.tells_note (told_status _ _ _)).bind fun _ _ => ?_
    refine (Task.tells_forIn (fun item u => ?_) _).bind fun _ _ => Task.tells_pure trivial
    exact (Task.tells_note (item.told s.console)).bind fun _ _ => Task.tells_pure trivial

theorem shows_pack (spec : ArchiveSpec) : (pack spec : Task σ Failure _).Shows runner :=
  (spec.tells_make.mapError _).mono (fun _ => .inr) fun _ _ => trivial

theorem shows_build (wanted : Bool) (output : Option Path) :
    (s.build runner wanted output).Shows runner := by
  refine ((Pipeline.shows_complete s.config s.environment).mapError _).bind fun built _ => ?_
  dsimp only
  split
  · exact (shows_pack _).bind fun packed _ => Task.tells_pure trivial
  · exact Task.tells_pure trivial

theorem shows_fixpoint : (s.fixpoint runner).Shows runner := by
  have hprepare : (Pipeline.prepare s.config s.environment runner).Shows runner :=
    Pipeline.shows_prepare s.config s.environment
  have hstages := hprepare.bind fun _ _ => Fixpoint.tells_verify s.config
  refine (hstages.mapError _).bind fun report _ => (s.shows_conclude _ _ _).bind fun _ _ => ?_
  split
  · exact Task.tells_note (told_status _ _ _)
  · exact Task.tells_pure trivial

theorem shows_selfTest (mode : SelfTestMode) : (s.selfTest runner mode).Shows runner := by
  have hprepare : (Pipeline.prepare s.config s.environment runner).Shows runner :=
    Pipeline.shows_prepare s.config s.environment
  have hstages := hprepare.bind fun _ _ => SelfTest.shows_run s.config mode
  exact (hstages.mapError _).bind fun report _ => s.shows_conclude _ _ _

theorem shows_package (output : Option Path) :
    (s.package output : Task σ Failure Unit).Shows runner := by
  refine Task.tells_files.bind fun fs _ => Task.tells_here.bind fun cwd _ => ?_
  split
  · exact Task.tells_fail _
  · exact (shows_pack _).bind fun report _ => s.shows_conclude _ _ _

theorem shows_perform (r : Request) : (s.perform runner r).Shows runner := by
  unfold perform
  split
  · exact (s.shows_build _ _).bind fun built _ => s.shows_conclude _ _ _
  · exact s.shows_fixpoint
  · exact s.shows_selfTest _
  · exact s.shows_package _

end Setting

theorem Request.shows_perform (r : Request) (env : Environment) :
    (r.perform env runner).Shows runner := by
  refine (Task.tells_anyOnFiles _).bind fun c _ => ?_
  refine (Task.tells_note (told_plain (by simp [LogRecord.digestFields]))).bind fun _ _ => ?_
  exact Setting.shows_perform _ r

variable {words : List String} {env : Environment} {memory : σ} {cwd : Location} {fs : FileSystem}

/-- **A run of the program shows digests by their first characters**, whatever it is asked for and
however it ends. -/
theorem told_of_mem_notes {n : Note} (h : n ∈ (run words env runner memory cwd fs).notes) :
    Told runner n := by
  unfold run at h
  split at h
  · -- a help text, the version, or what is wrong with the command line
    rename_i stop _
    cases stop with
    | help topic => obtain rfl := List.mem_singleton.1 h; exact .inr trivial
    | version => obtain rfl := List.mem_singleton.1 h; exact .inr trivial
    | misuse error =>
        obtain ⟨line, _, rfl⟩ := List.mem_map.1 h
        exact .inr trivial
  · rename_i request _
    have hshows : (request.perform env runner).Shows runner := request.shows_perform env
    have hperformed := hshows.notes cwd (Session.start fs memory) n
    generalize (request.perform env runner).run cwd (Session.start fs memory) = performed
      at h hperformed
    obtain ⟨outcome, session⟩ := performed
    rcases List.mem_append.1 h with hn | hn
    · exact (hperformed hn).resolve_left List.not_mem_nil
    · cases outcome with
      | ok u => cases hn
      | error failure =>
          rw [List.mem_singleton.1 hn]
          exact told_status _ .error failure.message

/-- **On a host, every note of a run shows digests by their first characters.** -/
theorem shows_of_mem_notes {host : Host} {n : Note}
    (h : n ∈ (run words env host.runner () cwd fs).notes) : n.ShowsDigests :=
  (told_of_mem_notes h).elim Host.shows_of_writes id

end CommandLine

namespace ContentDigest

open Digest CommandLine

/-- **Digests are safe to abbreviate.**  However a content is read, its digest is the same, and its text
is the hash of the standard in 64 digits.  So every digest of a report and of a log line can be cut
behind twelve characters.  Any other text can be cut there unless byte 12 is inside a
character. -/
theorem abbreviates_safely :
    (∀ chunks : List Bytes, ofChunks chunks = ofBytes chunks.flatten) ∧
    (∀ (sizes : Nat → Nat) (p : Path),
      FileOp.digestBy sizes p = do return ofBytes (← FileOp.read p)) ∧
    (∀ (sizes : Nat → Nat) (a : Artifact),
      a.digest = (FileOp.digestBy sizes a.path).mapError (.read a.path)) ∧
    (∀ content, (ofBytes content).Spells (Sha256.digest content) ∧
      ∃ blocks, Sha256.Blocks content blocks ∧
        Sha256.digest content = (blocks.foldl Sha256.compress .start).toBytes) ∧
    (∀ (c : Config) (runner : Runner σ) (cwd : Location) (s s' : Session σ) (r : FixpointReport),
      (Fixpoint.verify c runner).run cwd s = (.ok r, s') →
        ∀ d ∈ r.digests, d.Abbreviates) ∧
    (∀ (spec : ArchiveSpec) (cwd : Location) (s s' : Session σ) (r : ArchiveReport),
      spec.make.run cwd s = (.ok r, s') → r.digest.Abbreviates) ∧
    (∀ (c : Config) (runner : Runner σ) (cwd : Location) (s : Session σ),
      ∀ n ∈ ((Fixpoint.verify c runner).run cwd s).2.notes,
        n ∈ s.notes ∨ runner.Writes n ∨ n.ShowsDigests) ∧
    (∀ (words : List String) (env : Environment) (host : Host) (cwd : Location) (fs : FileSystem),
      ∀ n ∈ (run words env host.runner () cwd fs).notes, n.ShowsDigests) ∧
    ∀ d : ContentDigest,
      (d.short? = none ↔ shortLength < d.text.utf8ByteSize ∧ Inside shortLength d.text.toList) ∧
      ∀ shown, d.short? = some shown → CutAt shortLength d.text shown := by
  refine ⟨ofChunks_eq, FileOp.digestBy_eq, Artifact.digest_eq_digestBy, fun content => ?_, ?_, ?_,
    fun c runner => (Fixpoint.tells_verify c).notes, ?_, fun d => ?_⟩
  · exact ⟨spells_ofBytes content, Sha256.digest_eq_blocks content⟩
  · intro c runner cwd s s' r hrun
    exact (Fixpoint.tells_verify c).result cwd s r s' hrun
  · intro spec cwd s s' r hrun
    exact spec.tells_make.result cwd s r s' hrun
  · intro words env host cwd fs n hn
    exact shows_of_mem_notes hn
  · exact ⟨short?_eq_none_iff, fun shown => cutAt_of_short?⟩

/-- The last line of the log of the sample fixpoint. -/
def samplePromoted : Note :=
  .log ⟨.info, Fixpoint.logSource, "promoted stage 3",
    [("artifact", "p/build/x.ofta"), ("digest", "\"dbc1b4c900ff\"")]⟩

/-- The first line of the log of a run that looks for a toolchain in vain. -/
def sampleLoaded : Note :=
  .log ⟨.debug, logSource, "configuration loaded", [("root", "/"), ("toolchain", "Prebuilt(\"/o\")")]⟩

/-- A run that looks for a toolchain in vain. -/
def sampleFinished : Finished Unit :=
  run ["package", "--root", "/", "--toolchain", "/o"] ⟨[]⟩
    (sampleHost ["macro-expander", "build"]).runner () [] ⟨[], [], 0⟩

/-- Digests of the sample runs, and two texts with a character around byte 12. -/
theorem sampleDigests_abbreviate :
    (∃ r, Fixpoint.sampleRun = (.ok r, Fixpoint.sampleRun.2) ∧
      ∀ d ∈ r.digests, d.Abbreviates) ∧
    (∃ r, (ArchiveSpec.sampleSpec ⟨"/t/a"⟩).make.run []
        (Session.start (ArchiveSpec.sampleTree "b") ()) =
          (.ok r, (ArchiveSpec.samplePacking "b" ⟨"/t/a"⟩).2) ∧
      r.digest.Abbreviates) ∧
    (samplePromoted ∈ ((Fixpoint.verify Fixpoint.sampleConfig Fixpoint.sampleRunner).run []
        (Session.start Fixpoint.sampleFiles ())).2.notes ∧
      (samplePromoted ∈ [] ∨ Fixpoint.sampleRunner.Writes samplePromoted ∨
        samplePromoted.ShowsDigests)) ∧
    (sampleLoaded ∈ sampleFinished.notes ∧ sampleLoaded.ShowsDigests) ∧
    (shortLength < "0123456789aé".utf8ByteSize ∧ Inside shortLength "0123456789aé".toList) ∧
    CutAt shortLength "0123456789éb" "0123456789é" := by
  obtain ⟨_, _, _, _, hverify, hmake, hnotes, hrun, htext⟩ := @abbreviates_safely Unit
  obtain ⟨r, hended⟩ :=
    eq_of_isOk (show Fixpoint.sampleRun.1.isOk = true by decide +kernel)
  have hsample : ArchiveSpec.Samples "b" ⟨"/t/a"⟩ ["t"] "a" := by decide +kernel
  obtain ⟨packed, _, hpacked⟩ := hsample.run
  have hpromoted : samplePromoted ∈ ((Fixpoint.verify Fixpoint.sampleConfig
      Fixpoint.sampleRunner).run [] (Session.start Fixpoint.sampleFiles ())).2.notes := by
    decide +kernel
  have hloaded : sampleLoaded ∈ sampleFinished.notes := by decide +kernel
  exact ⟨⟨r, hended, hverify _ _ _ _ _ r hended⟩, ⟨packed, hpacked, hmake _ _ _ _ packed hpacked⟩,
    ⟨hpromoted, hnotes _ _ _ _ _ hpromoted⟩, ⟨hloaded, hrun _ _ _ _ _ _ hloaded⟩,
    (htext ⟨"0123456789aé"⟩).1.1 (by decide +kernel),
    (htext ⟨"0123456789éb"⟩).2 "0123456789é" (by decide +kernel)⟩

end ContentDigest

end Bootstrap
