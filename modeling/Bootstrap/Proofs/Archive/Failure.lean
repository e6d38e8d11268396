import Bootstrap.Proofs.Archive.Package
import Bootstrap.Proofs.FileSystem.Replacing

/-!
# What a packing leaves that fails

Packing may fail at its inputs, on a walk, at a member or when the archive is put in place.  Until
then the staging file stands beside everything that was there, and when it is dropped all is as
before.  Behind that one step only two looks at the archive are left.  They fail only if the archive
has taken the place of a link to a directory that its own path goes through, as in `l/../l`.

    inputs ──▶ stage ──▶ header ──▶ members ──▶ body ──▶ put in place ──▶ look
      │          │          └──────────┴─────────┴────────────┘             │
    nothing   directories             staging file is dropped       link on its own path

* `Task.Ends` — how a task ends, told by the files;
* `Placed.stat_of_blunt`, `Placed.read_of_stat` — what is put in place is found and read;
* `ArchiveSpec.Inspects` — steps that only look, such as walking through the trees;
* `ArchiveSpec.ends_fill`, `ArchiveSpec.ends_staging` — the two ends of packing, step by step;
* `ArchiveSpec.make_spares` — **a packing that fails leaves everything as it was**;
* `ArchiveSpec.crossed_output_changes` — but for an output behind a link on its own path.
-/

namespace Bootstrap

open FileSystem

variable {σ ε ε' α β : Type} {cwd parent up place : Location} {fs before now after : FileSystem}
variable {name last : String} {content : Bytes} {mode : Nat} {staged : Staged} {destination : Path}

namespace Task

variable {t : Task σ ε α} {next : α → Task σ ε β} {s : Session σ}
variable {bad : ε → FileSystem → Prop} {good : α → FileSystem → Prop}
variable {ready : β → FileSystem → Prop}

/-- **How a task ends**: `good` holds of what comes of it, or `bad` of the error, and of the files
that it leaves. -/
structure Ends (bad : ε → FileSystem → Prop) (good : α → FileSystem → Prop) (t : Task σ ε α)
    (cwd : Location) (s : Session σ) : Prop where
  ended : ∀ a s', t.run cwd s = (.ok a, s') → good a s'.files
  failed : ∀ e s', t.run cwd s = (.error e, s') → bad e s'.files

/-- **A sequence ends** as its parts do. -/
theorem Ends.bind (h : t.Ends bad good cwd s)
    (hnext : ∀ a s', good a s'.files → (next a).Ends bad ready cwd s') :
    (t >>= next).Ends bad ready cwd s := by
  constructor
  · intro b s'' hrun
    obtain ⟨a, s', hfirst, hrest⟩ := run_bind_eq_ok_iff.1 hrun
    exact (hnext a s' (h.ended a s' hfirst)).ended b s'' hrest
  · intro e s'' hrun
    rw [run_bind] at hrun
    rcases hfirst : t.run cwd s with ⟨e' | a, s'⟩
    · rw [hfirst] at hrun
      cases hrun
      exact h.failed _ _ hfirst
    · rw [hfirst] at hrun
      exact (hnext a s' (h.ended a s' hfirst)).failed e s'' hrun

theorem Ends.mono {bad' : ε → FileSystem → Prop} {good' : α → FileSystem → Prop}
    (h : t.Ends bad good cwd s) (hbad : ∀ e after, bad e after → bad' e after)
    (hgood : ∀ a after, good a after → good' a after) : t.Ends bad' good' cwd s where
  ended := fun a s' hrun => hgood a _ (h.ended a s' hrun)
  failed := fun e s' hrun => hbad e _ (h.failed e s' hrun)

/-- **An operation on the files**, whose error is seen in another light, ends as by itself. -/
theorem ends_onFiles {op : FileOp ε' α} {f : ε' → ε}
    (hended : ∀ a after, op.result cwd s.files = (.ok a, after) → good a after)
    (hfailed : ∀ e after, op.result cwd s.files = (.error e, after) → bad (f e) after) :
    (onFiles (op.mapError f) : Task σ ε α).Ends bad good cwd s := by
  have hrun : (onFiles (op.mapError f) : Task σ ε α).run cwd s =
      ((op.result cwd s.files).1.mapError f, { s with files := (op.result cwd s.files).2 }) := rfl
  rcases hresult : op.result cwd s.files with ⟨e | a, after⟩
  · rw [hresult] at hrun
    constructor
    · intro a s' hend
      rw [hrun] at hend
      cases hend
    · intro e' s' hend
      rw [hrun] at hend
      cases hend
      exact hfailed e after hresult
  · rw [hresult] at hrun
    constructor
    · intro a' s' hend
      rw [hrun] at hend
      cases hend
      exact hended a after hresult
    · intro e s' hend
      rw [hrun] at hend
      cases hend

/-- What is undone is undone from where the task failed. -/
theorem Ends.orElseUndo {bad' : ε → FileSystem → Prop} {undo : Task σ ε Unit}
    (h : t.Ends bad good cwd s)
    (hundo : ∀ e s', bad e s'.files → bad' e (undo.run cwd s').2.files) :
    (t.orElseUndo undo).Ends bad' good cwd s := by
  rcases hfirst : t.run cwd s with ⟨e | a, s'⟩
  · have hrun : (t.orElseUndo undo).run cwd s = (.error e, (undo.run cwd s').2) := by
      unfold Task.run at hfirst ⊢
      simp only [Task.orElseUndo, Task.run, hfirst]
    constructor
    · intro a s'' hended
      rw [hrun] at hended
      cases hended
    · intro e' s'' hfailed
      rw [hrun] at hfailed
      cases hfailed
      exact hundo e s' (h.failed e s' hfirst)
  · have hrun : (t.orElseUndo undo).run cwd s = (.ok a, s') := by
      unfold Task.run at hfirst ⊢
      simp only [Task.orElseUndo, Task.run, hfirst]
    constructor
    · intro a' s'' hended
      rw [hrun] at hended
      cases hended
      exact h.ended a s' hfirst
    · intro e' s'' hfailed
      rw [hrun] at hfailed
      cases hfailed

end Task

/-! ### What is put in place -/

/-- What is no directory and still leads to one is a link. -/
theorem link_of_not_blunt (hplain : ¬ fs.HoldsDirectory (up ++ [last]))
    (hbent : ¬ fs.Blunt up last) :
    (∃ target, fs.nodeAt? (up ++ [last]) = some (.link target)) ∧
      ∃ links place, Trail fs links up [.into last] place ∧ fs.HoldsDirectory place := by
  have hleads : ∃ links place, Trail fs links up [.into last] place ∧ fs.HoldsDirectory place := by
    refine Classical.byContradiction fun hnone => hbent ⟨hplain, ?_⟩
    intro links place htrail hdirectory
    exact hnone ⟨links, place, htrail, hdirectory⟩
  refine ⟨?_, hleads⟩
  obtain ⟨links, place, htrail, hdirectory⟩ := hleads
  cases htrail with
  | missing => exact absurd hdirectory hplain
  | follow _ _ hlink => exact ⟨_, hlink⟩
  | enter _ _ _ _ tail =>
      cases tail
      exact absurd hdirectory hplain

namespace Placed

variable {p : Path} {entry : Entry}

/-- In the place of a blunt name a file is found. -/
theorem stat_of_blunt (h : Placed before after cwd p up last content mode)
    (hblunt : before.Blunt up last) : after.stat cwd p = .ok (.file content mode) := by
  have hentry : after.entryAt? (up ++ [last]) = some (.file content mode) := by
    rw [h.replaced.entryAt?, if_pos rfl]
  obtain ⟨node, hnode, hplain⟩ := exists_plain_of_entryAt? hentry
  have hnamed := h.names hblunt h.named
  exact stat_eq_ok_iff.2 ⟨_, hnamed.reach_of_plain h.short hnode hplain, hentry⟩

/-- A file that is not found has not been put in the place of a blunt name. -/
theorem not_blunt_of_lost {errno : Errno} (h : Placed before after cwd p up last content mode)
    (hlost : after.stat cwd p = .error errno) : ¬ before.Blunt up last := by
  intro hblunt
  rw [h.stat_of_blunt hblunt] at hlost
  cases hlost

/-- What is found at the path is the file that was put there. -/
theorem eq_of_stat (h : Placed before after cwd p up last content mode)
    (hstat : after.stat cwd p = .ok entry) : entry = .file content mode := by
  obtain ⟨place, hreach, hentry⟩ := stat_eq_ok_iff.1 hstat
  obtain ⟨_, rfl⟩ := h.names_after hreach
  rw [h.replaced.entryAt?, if_pos rfl] at hentry
  exact (Option.some.inj hentry).symm

/-- A file that is found can be read if its bits allow it. -/
theorem read_of_stat (h : Placed before after cwd p up last content mode)
    (hstat : after.stat cwd p = .ok entry) (hallows : (Entry.file content mode).allows 4 = true) :
    after.read cwd p = .ok content := by
  obtain rfl := h.eq_of_stat hstat
  exact read_eq_ok_iff.2 ⟨_, hstat, hallows, .inl ⟨mode, rfl⟩⟩

end Placed

namespace Staged

/-- Only a destination that a call can be given is replaced. -/
theorem hasNull_of_persist (h : (staged.persist destination).result cwd now = (.ok (), after)) :
    destination.hasNull = false := by
  unfold persist at h
  rw [FileOp.result_change] at h
  cases hnull : destination.hasNull with
  | true => simp [hnull] at h
  | false => rfl

/-- The path of a staging file that has gone elsewhere names nothing, so nothing is dropped. -/
theorem Holds.drop_of_placed {parent : Location} {name : String}
    (h : Holds before now cwd staged parent name content mode)
    (hplaced : Placed before after cwd destination up last content mode)
    (hne : parent ++ [name] ≠ up ++ [last]) : staged.drop.result cwd after = (.ok (), after) := by
  have hvacant : after.nodeAt? (parent ++ [name]) = none := by
    rw [hplaced.replaced.node, if_neg hne, h.free]
  have hunlink : ∀ removed, after.unlink cwd staged.path ≠ .ok removed := by
    intro removed hremoved
    obtain ⟨parent', name', node, hnamed, _, hnode, _⟩ := unlink_eq_ok_iff.1 hremoved
    obtain ⟨rfl, rfl⟩ := h.named.agree hnamed hplaced.grown
    rw [hvacant] at hnode
    cases hnode
  unfold Staged.drop FileOp.unlink
  rw [FileOp.result_ignore, FileOp.result_checkPath_bind, h.passable, FileOp.result_change]
  cases hresult : after.unlink cwd staged.path with
  | error e => rfl
  | ok removed => exact absurd hresult (hunlink removed)

end Staged

namespace FileOp

theorem looks_memberBlocks (path name : Path) : (memberBlocks path name).Looks := by
  apply (looks_member path name).bind
  intro m
  split
  · exact looks_pure _
  · exact looks_fail

theorem looks_absolute (p : Path) : (FileOp.absolute p).Looks := by
  unfold FileOp.absolute
  split
  · exact looks_fail
  · split
    · exact looks_pure _
    · exact (looks_look _).bind fun _ => looks_pure _

end FileOp

/-- The error is not that an input is missing. -/
def PackageError.PastInputs (e : PackageError) : Prop := ∀ path, e ≠ .missingInput path

theorem PackageError.pastInputs_write (path : Path) (e : IoError) :
    (PackageError.write path e).PastInputs := by
  intro path' heq
  cases heq

theorem PackageError.pastInputs_walk (path place : Path) (e : IoError) :
    (PackageError.walk path place e).PastInputs := by
  intro path' heq
  cases heq

namespace ArchiveSpec

variable {spec : ArchiveSpec} {s : Session σ}

/-- The task only looks, and no input is missing to it. -/
def Inspects (t : Task σ PackageError α) : Prop :=
  ∀ cwd s, t.Ends (fun e after => e.PastInputs ∧ after = s.files)
    (fun _ after => after = s.files) cwd s

namespace Inspects

variable {t : Task σ PackageError α} {next : α → Task σ PackageError β}

theorem bind (h : Inspects t) (hnext : ∀ a, Inspects (next a)) : Inspects (t >>= next) := by
  intro cwd s
  apply (h cwd s).bind
  intro a s' hfiles
  have hrest := hnext a cwd s'
  rwa [hfiles] at hrest

theorem ends {bad : PackageError → FileSystem → Prop} (h : Inspects t)
    (hbad : ∀ e, e.PastInputs → bad e s.files) :
    t.Ends bad (fun _ after => after = s.files) cwd s :=
  (h cwd s).mono (fun e _ hfailed => hfailed.2 ▸ hbad e hfailed.1) fun _ _ hended => hended

end Inspects

/-- What never fails and leaves the files alone only looks. -/
theorem inspects_of_ok {t : Task σ PackageError α}
    (h : ∀ cwd s, ∃ a s', t.run cwd s = (.ok a, s') ∧ s'.files = s.files) : Inspects t := by
  intro cwd s
  obtain ⟨a, s', hrun, hfiles⟩ := h cwd s
  constructor
  · intro a' s'' hend
    rw [hrun] at hend
    cases hend
    exact hfiles
  · intro e s'' hend
    rw [hrun] at hend
    cases hend

theorem inspects_pure (a : α) : Inspects (pure a : Task σ PackageError α) :=
  inspects_of_ok fun _ s => ⟨a, s, rfl, rfl⟩

theorem inspects_log (level : LogLevel) (source message : String)
    (fields : List (String × String)) :
    Inspects (Task.log level source message fields : Task σ PackageError Unit) :=
  inspects_of_ok fun _ _ => ⟨(), _, rfl, rfl⟩

theorem inspects_onFiles {op : FileOp IoError α} {name : IoError → PackageError} (h : op.Looks)
    (hname : ∀ e, (name e).PastInputs) :
    Inspects (Task.onFiles (op.mapError name) : Task σ PackageError α) := by
  intro cwd s
  have hfiles := h cwd s.files
  apply Task.ends_onFiles
  · intro a after hended
    rwa [hended] at hfiles
  · intro e after hfailed
    rw [hfailed] at hfiles
    exact ⟨hname e, hfiles⟩

theorem inspects_writing {op : FileOp IoError α} (h : op.Looks) :
    Inspects (spec.writing op : Task σ PackageError α) :=
  inspects_onFiles h (PackageError.pastInputs_write _)

theorem inspects_foundBlocks (spec : ArchiveSpec) (founds : List Found) :
    Inspects (spec.foundBlocks founds : Task σ PackageError (List Bytes)) := by
  induction founds with
  | nil => exact inspects_pure []
  | cons found rest ih =>
      apply (inspects_writing (FileOp.looks_memberBlocks _ _)).bind
      intro blocks
      apply (inspects_log _ _ _ _).bind
      intro _
      exact ih.bind fun more => inspects_pure _

theorem inspects_treeFound (spec : ArchiveSpec) (skip : List Path) (tree : Path) :
    Inspects (spec.treeFound skip tree : Task σ PackageError (List Found)) := by
  apply (inspects_writing (FileOp.looks_absolute _)).bind
  intro base
  apply (inspects_onFiles (FileOp.looks_look _) (PackageError.pastInputs_walk _ _)).bind
  intro found
  exact inspects_pure _

/-- **Walking through the trees** changes nothing, wherever it stops. -/
theorem inspects_treeBlocks (spec : ArchiveSpec) (skip trees : List Path) :
    Inspects (spec.treeBlocks skip trees : Task σ PackageError (List Bytes)) := by
  induction trees with
  | nil => exact inspects_pure []
  | cons tree rest ih =>
      apply (inspects_treeFound spec skip tree).bind
      intro founds
      apply (inspects_foundBlocks spec founds).bind
      intro blocks
      exact ih.bind fun more => inspects_pure _

/-! ### The two ends of packing -/

/-- **The archive has cut its own path off.**  It is in the place of a link that led to a directory,
and now its path leads nowhere. -/
structure CutOff (cwd : Location) (destination : Path) (before after : FileSystem) (up : Location)
    (last : String) (errno : Errno) : Prop where
  placed : ∃ content, Placed (Staged.ground destination cwd before) after cwd destination up last
    content stagingMode
  link : ∃ target, before.entryAt? (up ++ [last]) = some (.link target)
  leads : ∃ links place, Trail (Staged.ground destination cwd before) links up [.into last] place ∧
    (Staged.ground destination cwd before).HoldsDirectory place
  lost : after.stat cwd destination = .error errno

/-- A file that is put in place of a link and not found again has cut its path off. -/
theorem cutOff_of_stat {errno : Errno} {destination : Path}
    (hplaced : Placed (Staged.ground destination cwd before) after cwd destination up last content
      stagingMode) (hlost : after.stat cwd destination = .error errno) :
    CutOff cwd destination before after up last errno := by
  obtain ⟨⟨target, hnode⟩, hleads⟩ :=
    link_of_not_blunt hplaced.plain (hplaced.not_blunt_of_lost hlost)
  refine ⟨⟨content, hplaced⟩, ⟨target, ?_⟩, hleads, hlost⟩
  -- A link was there before the directories on the way were made.
  have hground := Staged.furnishedOn_ground destination cwd before
  rcases hground.node (up ++ [last]) with hsame | ⟨_, hnew⟩
  · rw [hnode] at hsame
    simp [entryAt?, ← hsame, shown]
  · exact absurd hnew hplaced.plain

/-- What is left when filling fails: the staging file still stands beside everything, or the archive
has cut its path off, and then there is nothing to drop. -/
def Unfilled (spec : ArchiveSpec) (cwd : Location) (before : FileSystem) (staged : Staged)
    (parent : Location) (name : String) (e : PackageError) (after : FileSystem) : Prop :=
  e.PastInputs ∧ (∃ content, staged.Holds (Staged.ground spec.output cwd before) after cwd parent
    name content stagingMode) ∨
  ∃ up last errno, e = .write spec.output (.os errno) ∧
    CutOff cwd spec.output before after up last errno ∧
    staged.drop.result cwd after = (.ok (), after)

/-- The archive is the entry that its path names, in a tree with more directories. -/
def InPlace (cwd : Location) (destination : Path) (before after : FileSystem) : Prop :=
  ∃ up last content, Placed (Staged.ground destination cwd before) after cwd destination up last
    content stagingMode

variable {parent : Location} {name : String}

/-- The archive is in place, and if that is no blunt name, nothing is left of the staging file. -/
structure Settled (spec : ArchiveSpec) (cwd : Location) (before : FileSystem) (staged : Staged)
    (after : FileSystem) (up : Location) (last : String) (content : Bytes) : Prop where
  passable : spec.output.hasNull = false
  placed : Placed (Staged.ground spec.output cwd before) after cwd spec.output up last content
    stagingMode
  gone : ¬ (Staged.ground spec.output cwd before).Blunt up last →
    staged.drop.result cwd after = (.ok (), after)

/-- **Putting the archive in place.** -/
theorem ends_persist
    (hholds : staged.Holds (Staged.ground spec.output cwd before) s.files cwd parent name content
      stagingMode) :
    (spec.writing (staged.persist spec.output) : Task σ PackageError Unit).Ends
      (Unfilled spec cwd before staged parent name)
      (fun _ after => ∃ up last content, Settled spec cwd before staged after up last content)
      cwd s := by
  apply Task.ends_onFiles
  · intro _ after hpersist
    obtain ⟨up, last, hplaced⟩ := hholds.persist_eq_ok hpersist
    refine ⟨up, last, content, Staged.hasNull_of_persist hpersist, hplaced, ?_⟩
    intro hbent
    have hne : parent ++ [name] ≠ up ++ [last] := by
      intro hsame
      exact hbent (blunt_of_absent (hsame ▸ hholds.free))
    exact hholds.drop_of_placed hplaced hne
  · intro e after hpersist
    obtain rfl := Staged.persist_eq_error hpersist
    exact .inl ⟨PackageError.pastInputs_write _ _, content, hholds⟩

variable {up : Location} {last : String}

/-- **Looking at the archive** fails only if it has cut its path off. -/
theorem ends_stat (h : Settled spec cwd before staged s.files up last content) :
    (spec.writing (FileOp.stat spec.output) : Task σ PackageError Entry).Ends
      (Unfilled spec cwd before staged parent name)
      (fun entry after => after = s.files ∧ s.files.stat cwd spec.output = .ok entry) cwd s := by
  apply Task.ends_onFiles
  · intro entry after hended
    obtain ⟨_, hstat, hafter⟩ := FileOp.result_stat_eq_ok_iff.1 hended
    exact ⟨hafter, hstat⟩
  · intro e after hfailed
    rw [FileOp.result_stat, h.passable] at hfailed
    cases hstat : s.files.stat cwd spec.output with
    | ok entry =>
        rw [hstat] at hfailed
        cases hfailed
    | error errno =>
        rw [hstat] at hfailed
        cases hfailed
        have hcut := cutOff_of_stat h.placed hstat
        have hdropped := h.gone (h.placed.not_blunt_of_lost hstat)
        exact .inr ⟨up, last, errno, rfl, hcut, hdropped⟩

/-- **Reading the archive** that was found succeeds. -/
theorem ends_read {entry : Entry} (h : Settled spec cwd before staged s.files up last content)
    (hstat : s.files.stat cwd spec.output = .ok entry) :
    (spec.writing (FileOp.read spec.output) : Task σ PackageError Bytes).Ends
      (Unfilled spec cwd before staged parent name) (fun _ after => after = s.files) cwd s := by
  have hallows : (Entry.file content stagingMode).allows 4 = true :=
    show (stagingMode &&& (4 * 0o100) != 0) = true by decide
  have hread : (FileOp.read spec.output).result cwd s.files = (.ok content, s.files) :=
    FileOp.result_read_eq_ok_iff.2 ⟨h.passable, h.placed.read_of_stat hstat hallows, rfl⟩
  apply Task.ends_onFiles
  · intro _ after hended
    rw [hread] at hended
    cases hended
    rfl
  · intro e after hfailed
    rw [hread] at hfailed
    cases hfailed

/-- Writing into the staging file. -/
theorem ends_append
    (hholds : staged.Holds (Staged.ground spec.output cwd before) s.files cwd parent name content
      stagingMode) (more : Bytes) :
    (spec.writing (staged.append more) : Task σ PackageError Unit).Ends
      (Unfilled spec cwd before staged parent name)
      (fun _ after => staged.Holds (Staged.ground spec.output cwd before) after cwd parent name
        (content ++ more) stagingMode) cwd s := by
  obtain ⟨filled, hfilled, hholds'⟩ := hholds.append more
  apply Task.ends_onFiles
  · intro _ after hended
    rw [hfilled] at hended
    cases hended
    exact hholds'
  · intro e after hfailed
    rw [hfilled] at hfailed
    cases hfailed

/-- **Filling the staging file** and putting it in place, step by step. -/
theorem ends_fill
    (hholds : staged.Holds (Staged.ground spec.output cwd before) s.files cwd parent name []
      stagingMode) :
    (spec.fill staged).Ends (Unfilled spec cwd before staged parent name)
      (fun _ after => InPlace cwd spec.output before after) cwd s := by
  unfold fill
  apply (ends_append hholds Gzip.header).bind
  intro _ s₁ hheader
  have hunfilled : ∀ e : PackageError, e.PastInputs →
      Unfilled spec cwd before staged parent name e s₁.files :=
    fun e hpast => .inl ⟨hpast, _, hheader⟩
  -- The members are only looked for.
  apply ((inspects_writing (FileOp.looks_memberBlocks _ _)).ends hunfilled).bind
  intro program s₂ hfiles₂
  rw [← hfiles₂] at hheader hunfilled
  apply ((inspects_writing (FileOp.looks_absolute _)).ends hunfilled).bind
  intro output s₃ hfiles₃
  rw [← hfiles₃] at hheader hunfilled
  apply ((inspects_writing (FileOp.looks_absolute _)).ends hunfilled).bind
  intro own s₄ hfiles₄
  rw [← hfiles₄] at hheader hunfilled
  apply ((inspects_treeBlocks spec _ _).ends hunfilled).bind
  intro blocks s₅ hfiles₅
  rw [← hfiles₅] at hheader
  apply (ends_append hheader _).bind
  intro _ s₆ hbody
  apply (ends_persist hbody).bind
  intro _ s₇ hput
  obtain ⟨up, last, content, hsettled⟩ := hput
  apply (ends_stat hsettled).bind
  intro entry s₈ hfound
  obtain ⟨hfiles₈, hstat⟩ := hfound
  rw [← hfiles₈] at hsettled hstat
  apply (ends_read hsettled hstat).bind
  intro _ s₉ hfiles₉
  rw [← hfiles₉] at hsettled
  have hplaced : InPlace cwd spec.output before s₉.files := ⟨up, last, content, hsettled.placed⟩
  constructor
  · intro report s' hrun
    cases hrun
    exact hplaced
  · intro e s' hrun
    cases hrun

/-- What is left when packing fails behind its inputs. -/
def Failed (spec : ArchiveSpec) (cwd : Location) (before : FileSystem) (e : PackageError)
    (after : FileSystem) : Prop :=
  e.PastInputs ∧ (LeavesNothing cwd spec.output before after ∨
    ∃ up last errno, e = .write spec.output (.os errno) ∧
      CutOff cwd spec.output before after up last errno)

/-- **Staging, filling and dropping.** -/
theorem ends_staging (spec : ArchiveSpec) (cwd : Location) (s : Session σ) :
    (do let staged ← spec.writing (Staged.create spec.output)
        (spec.fill staged).orElseUndo (spec.writing staged.drop) :
          Task σ PackageError ArchiveReport).Ends
      (Failed spec cwd s.files) (fun _ after => InPlace cwd spec.output s.files after) cwd s := by
  have hcreate : (spec.writing (Staged.create spec.output) : Task σ PackageError Staged).Ends
      (Failed spec cwd s.files) (fun staged after => ∃ parent name, staged.Holds
        (Staged.ground spec.output cwd s.files) after cwd parent name [] stagingMode) cwd s := by
    apply Task.ends_onFiles
    · intro staged after hcreated
      obtain ⟨made, parent, name, hmade, hholds⟩ := Staged.create_eq_ok hcreated
      refine ⟨parent, name, ?_⟩
      rwa [Staged.ground, hmade]
    · intro e after hfailed
      refine ⟨PackageError.pastInputs_write _ _, .inl (leavesNothing_of_restored ?_)⟩
      rw [Staged.ground, Staged.create_eq_error hfailed]
      exact .refl after
  apply hcreate.bind
  intro staged s₁ hstaged
  obtain ⟨parent, name, hholds⟩ := hstaged
  apply (ends_fill hholds).orElseUndo
  intro e s₂ hunfilled
  have hdropped : ((spec.writing staged.drop : Task σ PackageError Unit).run cwd s₂).2.files =
      (staged.drop.result cwd s₂.files).2 := rfl
  rw [hdropped]
  rcases hunfilled with ⟨hpast, content, hstill⟩ | ⟨up, last, errno, rfl, hcut, hdrop⟩
  · obtain ⟨after, hdrop, hrestored⟩ := hstill.drop
    rw [hdrop]
    exact ⟨hpast, .inl (leavesNothing_of_restored hrestored)⟩
  · rw [hdrop]
    exact ⟨PackageError.pastInputs_write _ _, .inr ⟨up, last, errno, rfl, hcut⟩⟩

/-- **The first input that is missing**: the binary, or a tree that is no directory while all in
front of it are. -/
inductive FirstMissing (spec : ArchiveSpec) (cwd : Location) (fs : FileSystem) : Path → Prop
  | binary (missing : fs.isFile cwd spec.executable = false) :
      FirstMissing spec cwd fs spec.executable
  | tree {earlier later : List Path} {tree : Path} (there : fs.isFile cwd spec.executable = true)
      (split : spec.trees = earlier ++ tree :: later)
      (present : ∀ t ∈ earlier, fs.isDirectory cwd (spec.root.join t) = true)
      (missing : fs.isDirectory cwd (spec.root.join tree) = false) : FirstMissing spec cwd fs tree

theorem missingInput?_eq_some_iff {path : Path} :
    spec.missingInput? fs cwd = some path ↔ spec.FirstMissing cwd fs path := by
  unfold missingInput?
  split
  · rename_i hthere
    rw [List.find?_eq_some_iff_append]
    constructor
    · rintro ⟨hmissing, earlier, later, hsplit, hpresent⟩
      exact .tree hthere hsplit (by simpa using hpresent) (by simpa using hmissing)
    · intro h
      cases h with
      | binary hmissing => simp [hmissing] at hthere
      | @tree earlier later _ _ hsplit hpresent hmissing =>
          exact ⟨by simpa using hmissing, earlier, later, hsplit, by simpa using hpresent⟩
  · rename_i hnot
    constructor
    · intro heq
      cases heq
      exact .binary (by simpa using hnot)
    · intro h
      cases h with
      | binary => rfl
      | tree hthere => exact absurd hthere hnot

/-- Packing looks for its inputs before it does anything else. -/
theorem run_make (spec : ArchiveSpec) (cwd : Location) (s : Session σ) :
    spec.make.run cwd s =
      match spec.missingInput? s.files cwd with
      | some path => (.error (.missingInput path), s)
      | none => (do let staged ← spec.writing (Staged.create spec.output)
                    (spec.fill staged).orElseUndo (spec.writing staged.drop) :
                      Task σ PackageError ArchiveReport).run cwd s := by
  have hfiles : (Task.files : Task σ PackageError FileSystem).run cwd s = (.ok s.files, s) := rfl
  have hhere : (Task.here : Task σ PackageError Location).run cwd s = (.ok cwd, s) := rfl
  unfold make
  rw [Task.run_bind_of_ok hfiles, Task.run_bind_of_ok hhere]
  cases spec.missingInput? s.files cwd with
  | some path => rfl
  | none => rfl

/-- **What packing leaves.**  A missing input is the first one and nothing is touched.  Any other
failure leaves everything as it was, but for directories on the way to the output; unless the
archive has cut its own path off.  Success changes the one entry that the output names. -/
theorem make_spares (spec : ArchiveSpec) (cwd : Location) (s : Session σ) :
    (∀ path s', spec.make.run cwd s = (.error (.missingInput path), s') ↔
      spec.FirstMissing cwd s.files path ∧ s' = s) ∧
    (∀ e s', spec.make.run cwd s = (.error e, s') → (∀ path, e ≠ .missingInput path) →
      LeavesNothing cwd spec.output s.files s'.files ∨
        ∃ up last errno, e = .write spec.output (.os errno) ∧
          CutOff cwd spec.output s.files s'.files up last errno) ∧
    ∀ report s', spec.make.run cwd s = (.ok report, s') →
      FurnishedOn (Staged.directoryOf spec.output).ancestors cwd s.files
          (Staged.ground spec.output cwd s.files) ∧
        InPlace cwd spec.output s.files s'.files := by
  have hmake := run_make spec cwd s
  have hends := ends_staging spec cwd s
  cases hinputs : spec.missingInput? s.files cwd with
  | some path =>
      rw [hinputs] at hmake
      refine ⟨?_, ?_, ?_⟩
      · intro path' s'
        rw [hmake, ← missingInput?_eq_some_iff, hinputs]
        simp [eq_comm (a := s)]
      · intro e s' hrun hpast
        rw [hmake] at hrun
        cases hrun
        exact absurd rfl (hpast path)
      · intro report s' hrun
        rw [hmake] at hrun
        cases hrun
  | none =>
      rw [hinputs] at hmake
      refine ⟨?_, ?_, ?_⟩
      · intro path s'
        rw [hmake, ← missingInput?_eq_some_iff, hinputs]
        constructor
        · intro hrun
          exact absurd rfl ((hends.failed _ s' hrun).1 path)
        · rintro ⟨hsome, _⟩
          cases hsome
      · intro e s' hrun _
        rw [hmake] at hrun
        exact (hends.failed e s' hrun).2
      · intro report s' hrun
        rw [hmake] at hrun
        exact ⟨Staged.furnishedOn_ground spec.output cwd s.files, hends.ended report s' hrun⟩

/-- The error of a run that has failed. -/
def errorOf? : Except ε α × β → Option ε
  | (.error e, _) => some e
  | (.ok _, _) => none

theorem eq_error_of_errorOf? {r : Except ε α × β} {e : ε} (h : errorOf? r = some e) :
    r = (.error e, r.2) := by
  obtain ⟨_ | a, b⟩ := r
  · cases h
    rfl
  · cases h

/-- A binary, an archive from before, and a tree with a link that leads nowhere. -/
def danglingFiles : FileSystem where
  nodes := [(["o"], .file 0), (["v"], .file 1), (["t"], .directory 0o755 0),
    (["t", "l"], .link "x")]
  files := [(0, ⟨[1], 0o755, 0⟩), (1, ⟨[2], 0o644, 0⟩)]
  now := 0

def danglingSpec : ArchiveSpec := ⟨⟨"/o"⟩, ⟨"/"⟩, [⟨"./t"⟩], ⟨"/v"⟩⟩

/-- Packing stops at the link.  Only the kernel evaluates it. -/
@[irreducible] def danglingRun : Except PackageError ArchiveReport × Session Unit :=
  danglingSpec.make.run [] (Session.start danglingFiles ())

/-- The archive from before is still there when a later member cannot be stored. -/
theorem danglingRun_spares :
    ∃ e, danglingRun = (.error e, danglingRun.2) ∧
      LeavesNothing [] ⟨"/v"⟩ danglingFiles danglingRun.2.files := by
  have hrun := eq_error_of_errorOf? (show errorOf? danglingRun = some (.write ⟨"/v"⟩
    (.custom "NotFound"
      "No such file or directory (os error 2) when getting metadata for /t/l")) by decide +kernel)
  refine ⟨_, hrun, ?_⟩
  unfold danglingRun at hrun ⊢
  refine ((make_spares danglingSpec [] (Session.start danglingFiles ())).2.1 _ _ hrun
    nofun).resolve_right ?_
  rintro ⟨_, _, _, herror, _⟩
  cases herror

/-- A binary, and a link to a directory. -/
def crossedFiles : FileSystem where
  nodes := [(["o"], .file 0), (["d"], .directory 0o755 0), (["l"], .link "d")]
  files := [(0, ⟨[1], 0o755, 0⟩)]
  now := 0

/-- An archive whose path goes through the link in whose place it is put. -/
def crossedSpec : ArchiveSpec := ⟨⟨"/o"⟩, ⟨"/"⟩, [], ⟨"/l/../l"⟩⟩

/-- **A failure can change the output**: the archive takes the place of the link that its path goes
through, and then it cannot be looked at. -/
theorem crossed_output_changes :
    ∃ e s', crossedSpec.make.run [] (Session.start crossedFiles ()) = (.error e, s') ∧
      (∀ path, e ≠ .missingInput path) ∧
      crossedFiles.entryAt? ["l"] = some (.link "d") ∧
      s'.files.entryAt? ["l"] ≠ some (.link "d") := by
  have hrun := eq_error_of_errorOf?
    (show errorOf? (crossedSpec.make.run [] (Session.start crossedFiles ())) =
      some (.write ⟨"/l/../l"⟩ (.os .notDirectory)) by decide +kernel)
  exact ⟨_, _, hrun, nofun, by decide +kernel, by decide +kernel⟩

end ArchiveSpec

end Bootstrap
