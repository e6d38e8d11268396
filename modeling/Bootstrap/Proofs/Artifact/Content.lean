import Bootstrap.Artifact
import Bootstrap.Proofs.FileSystem.View
import Bootstrap.Proofs.Running

/-!
# Looking at artifacts

To require, to read, to digest and to compare artifacts changes nothing.  What these
operations say about an artifact is what its path leads to.

* `Artifact.compareChunks_eq` — two contents of one length are compared byte for byte,
  however the reads fall;
* `Artifact.identicalBy_of_read` — artifacts that can be read are compared without fault.
-/

namespace Bootstrap.Artifact

open FileSystem

variable {cwd : Location} {fs fs' : FileSystem} {a b : Artifact} {x y : Bytes}

/-- **Comparing in chunks is comparing bytes.**  Neither the limit of a read nor what the reads give
has a part in the answer, and contents of one length end together. -/
theorem compareChunks_eq (limit : Nat) (sizes : Nat → Nat) (turn : Nat)
    (h : x.length = y.length) :
    compareChunks limit sizes turn x y = .ok (decide (x = y)) := by
  fun_induction compareChunks limit sizes turn x y with
  | case1 turn y =>
      have : y = [] := List.length_eq_zero_iff.1 h.symm
      simp [this]
  | case2 turn x y hne n hshort =>
      rw [List.length_take, h] at hshort
      omega
  | case3 turn x y hne n hlong hchunk ih =>
      have hrest : (x.drop n).length = (y.drop n).length := by
        rw [List.length_drop, List.length_drop, h]
      rw [ih hrest, Except.ok.injEq, decide_eq_decide]
      constructor
      · intro hdrop
        rw [← List.take_append_drop n x, ← List.take_append_drop n y, hchunk, hdrop]
      · rintro rfl
        rfl
  | case4 turn x y hne n hlong hchunk =>
      have : x ≠ y := by
        rintro rfl
        exact hchunk rfl
      simp [this]

theorem result_content :
    a.content.result cwd fs =
      if a.path.hasNull then (.error (.read a.path .nullInPath), fs)
      else ((fs.read cwd a.path).mapError fun e => .read a.path (.os e), fs) := by
  unfold content
  rw [FileOp.result_mapError, FileOp.result_read]
  split
  · rfl
  · cases fs.read cwd a.path <;> rfl

/-- The content of an artifact is what is read at its path. -/
theorem result_content_eq_ok_iff :
    a.content.result cwd fs = (.ok x, fs') ↔
      a.path.hasNull = false ∧ fs.read cwd a.path = .ok x ∧ fs' = fs := by
  rw [result_content]
  cases a.path.hasNull <;> simp [FileOp.mapError_eq_ok_iff, eq_comm (a := fs)]

theorem looks_content (a : Artifact) : a.content.Looks :=
  (FileOp.looks_read a.path).mapError _

theorem result_require :
    a.require.result cwd fs =
      (if fs.isFile cwd a.path then .ok () else .error (.missing a.key.label a.path), fs) := by
  have hpresent : (a.isPresent : FileOp ArtifactError Bool).result cwd fs =
      (.ok (fs.isFile cwd a.path), fs) := rfl
  unfold require
  rw [FileOp.result_bind_of_ok hpresent]
  split <;> rfl

theorem looks_require (a : Artifact) : a.require.Looks := by
  intro cwd fs
  rw [result_require]

/-- What was read has the length that was reported. -/
theorem size_of_read {p : Path} {entry : Entry} (hstat : fs.stat cwd p = .ok entry)
    (hread : fs.read cwd p = .ok x) : entry.size = x.length := by
  obtain ⟨found, hfound, _, hcontent⟩ := read_eq_ok_iff.1 hread
  rw [hstat] at hfound
  cases hfound
  rcases hcontent with ⟨mode, rfl⟩ | ⟨rfl, ⟨d, _, rfl⟩ | ⟨mode, rfl⟩⟩ <;> rfl

theorem result_entry :
    a.entry.result cwd fs =
      (((FileOp.stat a.path).result cwd fs).1.mapError (.read a.path),
        ((FileOp.stat a.path).result cwd fs).2) := rfl

/-- Two paths that lead somewhere are compared by size first. -/
theorem identicalBy_of_entries {entry entry' : Entry} (sizes : Nat → Nat)
    (ha : (FileOp.stat a.path).result cwd fs = (.ok entry, fs))
    (hb : (FileOp.stat b.path).result cwd fs = (.ok entry', fs)) :
    (a.identicalBy sizes b).result cwd fs =
      if entry.size ≠ entry'.size then (.ok false, fs)
      else (a.sameContent sizes b).result cwd fs := by
  have hfirst : a.entry.result cwd fs = (.ok entry, fs) := by
    rw [result_entry, ha]
    rfl
  have hsecond : b.entry.result cwd fs = (.ok entry', fs) := by
    rw [result_entry, hb]
    rfl
  unfold identicalBy
  rw [FileOp.result_bind_of_ok hfirst, FileOp.result_bind_of_ok hsecond]
  split <;> rfl

/-- **Artifacts that can be read are compared without fault**, and the answer is whether they have
the same bytes. -/
theorem identicalBy_of_read (sizes : Nat → Nat) (ha : a.content.result cwd fs = (.ok x, fs))
    (hb : b.content.result cwd fs = (.ok y, fs)) :
    (a.identicalBy sizes b).result cwd fs = (.ok (decide (x = y)), fs) := by
  obtain ⟨hnull, hread, _⟩ := result_content_eq_ok_iff.1 ha
  obtain ⟨hnull', hread', _⟩ := result_content_eq_ok_iff.1 hb
  obtain ⟨entry, hstat, _⟩ := stat_of_read hread
  obtain ⟨entry', hstat', _⟩ := stat_of_read hread'
  rw [identicalBy_of_entries sizes (FileOp.result_stat_eq_ok_iff.2 ⟨hnull, hstat, rfl⟩)
    (FileOp.result_stat_eq_ok_iff.2 ⟨hnull', hstat', rfl⟩), size_of_read hstat hread,
    size_of_read hstat' hread']
  by_cases hlength : x.length = y.length
  · unfold sameContent
    rw [if_neg (not_not_intro hlength), FileOp.result_bind_of_ok ha, FileOp.result_bind_of_ok hb,
      compareChunks_eq _ _ _ hlength]
    rfl
  · have hne : x ≠ y := by
      rintro rfl
      exact hlength rfl
    rw [if_pos hlength]
    simp [hne]

theorem identical_of_read (ha : a.content.result cwd fs = (.ok x, fs))
    (hb : b.content.result cwd fs = (.ok y, fs)) :
    (a.identical b).result cwd fs = (.ok (decide (x = y)), fs) :=
  identicalBy_of_read _ ha hb

end Bootstrap.Artifact
