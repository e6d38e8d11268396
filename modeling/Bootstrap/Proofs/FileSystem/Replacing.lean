import Bootstrap.Proofs.FileSystem.Directories
import Bootstrap.Proofs.FileSystem.Staging

/-!
# Replacing a file at once

An operation on a staging file either puts it in place or fails; if it fails, nothing is
seen of it, but for the directories that were made on the way to it.

* `LeavesNothing` — nothing is left but directories;
* `Staged.Stages.during_cases` — the two ends of an operation on a staging file;
* `FileOp.copyAtomic_cases` — a copy is in place with the content and the bits of its
  source, or nothing is seen of it.
-/

namespace Bootstrap

open FileSystem

variable {cwd : Location} {fs : FileSystem} {source destination : Path}

/-- Nothing is left but directories on the way to the destination: all that was there is as it was. -/
def LeavesNothing (cwd : Location) (destination : Path) (before after : FileSystem) : Prop :=
  ∃ made, FurnishedOn (Staged.directoryOf destination).ancestors cwd before made ∧ Restored made after

theorem leavesNothing_refl (cwd : Location) (destination : Path) (fs : FileSystem) :
    LeavesNothing cwd destination fs fs :=
  ⟨fs, .refl _ cwd fs, .refl fs⟩

theorem leavesNothing_of_restored {after : FileSystem}
    (h : Restored (Staged.ground destination cwd fs) after) : LeavesNothing cwd destination fs after :=
  ⟨_, Staged.furnishedOn_ground destination cwd fs, h⟩

/-- What one sees at a place is as it was, or a directory on the way to the destination. -/
theorem LeavesNothing.entry {after : FileSystem} (h : LeavesNothing cwd destination fs after)
    (place : Location) :
    after.entryAt? place = fs.entryAt? place ∨
      fs.entryAt? place = none ∧ after.HoldsDirectory place ∧
        ∃ q ∈ (Staged.directoryOf destination).ancestors, after.reach cwd q = .ok place := by
  obtain ⟨made, hmade, hrestored⟩ := h
  rcases hmade.entry place with hsame | ⟨hnone, ⟨mode, time, hnode⟩, q, hq, hreach⟩
  · exact .inl ((hrestored.entryAt? place).trans hsame)
  · refine .inr ⟨hnone, ⟨mode, time, (hrestored.node place).trans hnode⟩, q, hq, ?_⟩
    exact hrestored.kept.reach hreach (by simp [hnode])

namespace Staged

/-- What a copy of `source` has come to: a file with the content and the bits that were there to be
read. -/
def Copied (cwd : Location) (source destination : Path) (before after : FileSystem) : Prop :=
  ∃ parent name content mode, Placed before after cwd destination parent name content mode ∧
    (∀ x, before.read cwd source = .ok x → x = content) ∧
    ∀ entry, before.stat cwd source = .ok entry → entry.mode = mode

/-- The operation ends well, or fails and still has the staging file. -/
def Stages {α : Type} (cwd : Location) (body : Staged → FileOp IoError α)
    (good : FileSystem → FileSystem → α → Prop) : Prop :=
  ∀ before now s parent name, Holds before now cwd s parent name [] stagingMode →
    (∃ e after content mode, (body s).result cwd now = (.error e, after) ∧
        Holds before after cwd s parent name content mode) ∨
      ∃ a after, (body s).result cwd now = (.ok a, after) ∧ good before after a

/-- **The two ends of an operation on a staging file.**  All that can remain of a failure are
directories. -/
theorem Stages.during_cases {α : Type} {body : Staged → FileOp IoError α}
    {good : FileSystem → FileSystem → α → Prop} (hbody : Stages cwd body good) :
    ∃ made, ((FileOp.makeDirectories (directoryOf destination)).result cwd fs).2 = made ∧
      ((∃ e after, (during destination body).result cwd fs = (.error e, after) ∧
          Restored made after) ∨
        ∃ a after, (during destination body).result cwd fs = (.ok a, after) ∧
          good made after a) := by
  refine ⟨_, rfl, ?_⟩
  unfold during
  rcases hcreate : (create destination).result cwd fs with ⟨e | s, now⟩
  · refine .inl ⟨e, now, FileOp.result_bind_of_error hcreate, ?_⟩
    rw [create_eq_error hcreate]
    exact .refl now
  · obtain ⟨made, parent, name, hmade, hholds⟩ := create_eq_ok hcreate
    rw [hmade, FileOp.result_bind_of_ok hcreate, FileOp.result_orElseUndo]
    rcases hbody made now s parent name hholds with
      ⟨e, middle, content, mode, hresult, hholds'⟩ | ⟨a, after, hresult, hgood⟩
    · obtain ⟨after, hdrop, hrestored⟩ := hholds'.drop
      rw [hresult]
      exact .inl ⟨e, after, by simp only [hdrop], hrestored⟩
    · rw [hresult]
      exact .inr ⟨a, after, rfl, hgood⟩

/-- Copying into a staging file. -/
theorem stages_copy (source destination : Path) :
    Stages cwd (copy source destination) fun before after _ =>
      Copied cwd source destination before after := by
  intro before now s parent name hholds
  unfold copy
  have hread := FileOp.looks_read source cwd now
  rcases hcontent : (FileOp.read source).result cwd now with ⟨e | content, now'⟩
  · obtain rfl : now' = now := by rwa [hcontent] at hread
    exact .inl ⟨e, now', _, _, FileOp.result_bind_of_error hcontent, hholds⟩
  obtain ⟨_, hcontent', rfl⟩ := FileOp.result_read_eq_ok_iff.1 hcontent
  obtain ⟨filled, hfill, hholds'⟩ := hholds.append content
  rw [FileOp.result_bind_of_ok hcontent, FileOp.result_bind_of_ok hfill]
  have hstat := FileOp.looks_stat source cwd filled
  rcases hentry : (FileOp.stat source).result cwd filled with ⟨e | entry, filled'⟩
  · obtain rfl : filled' = filled := by rwa [hentry] at hstat
    exact .inl ⟨e, filled', _, _, FileOp.result_bind_of_error hentry, hholds'⟩
  obtain ⟨_, hentry', rfl⟩ := FileOp.result_stat_eq_ok_iff.1 hentry
  obtain ⟨ready, hmode, hholds''⟩ := hholds'.setMode entry.mode
  rw [FileOp.result_bind_of_ok hentry, FileOp.result_bind_of_ok hmode]
  rcases hpersist : (s.persist destination).result cwd ready with ⟨e | ⟨⟩, after⟩
  · obtain rfl := persist_eq_error hpersist
    exact .inl ⟨e, _, _, _, rfl, hholds''⟩
  · obtain ⟨parent', name', hplaced⟩ := hholds''.persist_eq_ok hpersist
    refine .inr ⟨(), after, rfl, parent', name', _, _, hplaced, ?_, ?_⟩
    · intro x hx
      exact Except.ok.inj ((hholds.kept.read hx).symm.trans hcontent')
    · intro entry' hentry''
      have := Except.ok.inj ((hholds'.kept.stat hentry'').symm.trans hentry')
      rw [this]

end Staged

namespace FileOp

/-- **A copy is in place, or nothing is seen of it.** -/
theorem copyAtomic_cases (h : fs.isDirectory cwd (Staged.directoryOf destination) = true) :
    (∃ e after, (copyAtomic source destination).result cwd fs = (.error e, after) ∧
        Restored fs after) ∨
      ∃ after, (copyAtomic source destination).result cwd fs = (.ok (), after) ∧
        Staged.Copied cwd source destination fs after := by
  obtain ⟨made, hmade, hcases⟩ :=
    (Staged.stages_copy source destination).during_cases
  rw [makeDirectories_of_isDirectory h] at hmade
  subst hmade
  rcases hcases with hcases | ⟨⟨⟩, hcases⟩
  · exact .inl hcases
  · exact .inr hcases

end FileOp

end Bootstrap
