import Bootstrap.Proofs.Artifact.Content
import Bootstrap.Proofs.Artifact.Naming
import Bootstrap.Proofs.FileSystem.Replacing

/-!
# Promotion

A generation takes the place of another one, and the generations that are left over are
removed.  All of them are entries of one directory that lead to no directory, and this is
why nothing behind the copy can fail: the directory stays where it is whatever happens to
these entries, and who may put a file there may also take one away.

* `Stands` — an entry that is no directory and leads to none;
* `ArtifactStore.stands_of_read` — generations that can be read stand in one directory;
* `Standing.promotion` — either everything is as before, or both removals
  succeed and three entries have changed.
-/

namespace Bootstrap

open FileSystem

variable {fs fs' : FileSystem} {cwd parent place : Location} {p : Path} {name : String}
variable {a b : Artifact}

/-- The path names something that is no directory and leads to none. -/
structure Stands (fs : FileSystem) (cwd : Location) (p : Path) (parent : Location)
    (name : String) : Prop where
  named : fs.Names cwd p parent name
  short : ¬ nameLimit < name.utf8ByteSize
  blunt : fs.Blunt parent name
  present : ∃ node, fs.nodeAt? (parent ++ [name]) = some node

/-- What a trail of one name leads to decides whether the name stands. -/
theorem stands_of_trail {entry : Entry} {links : Nat} (hnames : fs.Names cwd p parent name)
    (htrail : Trail fs links parent [.into name] place) (hentry : fs.entryAt? place = some entry)
    (hplain : entry.isDirectory = false) : Stands fs cwd p parent name where
  named := hnames
  short := htrail.name_le
  blunt := by
    refine htrail.blunt fun hdirectory => ?_
    obtain ⟨mode, hmode⟩ := holdsDirectory_iff.1 hdirectory
    rw [hentry] at hmode
    cases hmode
    cases hplain
  present := by
    cases hnode : fs.nodeAt? (parent ++ [name]) with
    | some node => exact ⟨node, rfl⟩
    | none =>
        have hplace : parent ++ [name] = place := by
          cases htrail with
          | missing => rfl
          | follow _ _ hlink => rw [hnode] at hlink; cases hlink
          | enter _ _ hsome => rw [hnode] at hsome; cases hsome
        obtain ⟨node, hsome, _⟩ := nodeAt?_of_entryAt? hentry
        rw [← hplace, hnode] at hsome
        cases hsome

/-- Generations that can be read stand in one directory, under different names. -/
theorem ArtifactStore.stands_of_read {s : ArtifactStore} {key : ArtifactKey} {v : Option Nat}
    {x : Bytes} (h : fs.read cwd (s.resolve key v).path = .ok x) :
    ∃ parent, ∃ names : Option Nat → String, (∀ u w, names u = names w → u = w) ∧
      ∀ w y, fs.read cwd (s.resolve key w).path = .ok y →
        Stands fs cwd (s.resolve key w).path parent (names w) := by
  obtain ⟨entry, hstat, _⟩ := stat_of_read h
  obtain ⟨place, hreach, _⟩ := stat_eq_ok_iff.1 hstat
  obtain ⟨parent, names, hinj, hnames⟩ := ArtifactStore.names_generation hreach
  refine ⟨parent, names, hinj, fun w y hread => ?_⟩
  obtain ⟨entry', hstat', hplain⟩ := stat_of_read hread
  obtain ⟨place', hreach', hentry⟩ := stat_eq_ok_iff.1 hstat'
  obtain ⟨hnamed, links, htrail⟩ := hnames w place' hreach'
  exact stands_of_trail hnamed htrail hentry hplain

/-- Where the path of an artifact names nothing, no artifact is found. -/
theorem ArtifactStore.not_isFile_of_vacant {s : ArtifactStore} {key : ArtifactKey} {v : Option Nat}
    (h : fs.Vacant cwd (s.resolve key v).path) : fs.isFile cwd (s.resolve key v).path = false := by
  refine Bool.eq_false_iff.2 fun hfile => ?_
  obtain ⟨content, mode, hstat⟩ := isFile_iff.1 hfile
  obtain ⟨place, hreach, hentry⟩ := stat_eq_ok_iff.1 hstat
  obtain ⟨parent, names, _, hnames⟩ := ArtifactStore.names_generation hreach
  obtain ⟨hnamed, _, htrail⟩ := hnames v place hreach
  obtain ⟨node, hnode⟩ := (stands_of_trail hnamed htrail hentry rfl).present
  rw [h _ _ hnamed] at hnode
  cases hnode

namespace Artifact

/-- An entry that stands can be removed where names may be changed. -/
theorem result_remove {node : Node} (hnull : a.path.hasNull = false)
    (hnames : fs.Names cwd a.path parent name) (hshort : ¬ nameLimit < name.utf8ByteSize)
    (hnode : fs.nodeAt? (parent ++ [name]) = some node) (hplain : node.isDirectory = false)
    (hwritable : fs.writable parent = .ok ()) :
    a.remove.result cwd fs = (.ok (), fs.erase (parent ++ [name])) := by
  have hunlink : fs.unlink cwd a.path = .ok (fs.erase (parent ++ [name])) :=
    unlink_eq_ok_iff.2 ⟨parent, name, node, hnames, hshort, hnode, hplain, hwritable, rfl⟩
  unfold remove FileOp.unlink
  rw [FileOp.result_mapError, FileOp.result_checkPath_bind, hnull, FileOp.result_change, hunlink]
  rfl

/-- What discarding comes to: what removing the entry does, but that nothing need be there. -/
theorem result_discard :
    a.discard.result cwd fs =
      if a.path.hasNull then (.error (.remove a.path .nullInPath), fs)
      else match fs.unlink cwd a.path with
        | .ok after => (.ok (), after)
        | .error e =>
            (if (IoError.os e).isNotFound then .ok () else .error (.remove a.path (.os e)), fs) := by
  unfold discard FileOp.unlink
  rw [FileOp.result_bind_of_ok FileOp.result_attempt, FileOp.result_checkPath_bind,
    FileOp.result_change]
  cases a.path.hasNull with
  | true => rfl
  | false =>
      cases fs.unlink cwd a.path with
      | ok after => rfl
      | error e => cases hfound : (IoError.os e).isNotFound <;> simp [hfound]

/-- Discarding that fails has changed nothing. -/
theorem discard_eq_error {e : ArtifactError} (h : a.discard.result cwd fs = (.error e, fs')) :
    fs' = fs := by
  rw [result_discard] at h
  split at h
  · exact (congrArg Prod.snd h).symm
  · split at h
    · cases h
    · exact (congrArg Prod.snd h).symm

/-- Only one fault of the system says that a file was not there. -/
theorem eq_noEntry_of_isNotFound {e : Errno} (h : (IoError.os e).isNotFound = true) :
    e = .noEntry := by
  have hkind : e.kind = "NotFound" := eq_of_beq h
  unfold Errno.kind at hkind
  cases hlookup : Errno.kinds.lookup e.number with
  | none =>
      rw [hlookup] at hkind
      exact absurd hkind (by decide)
  | some kind =>
      rw [hlookup] at hkind
      have htable : ∀ entry ∈ Errno.kinds, entry.2 = "NotFound" → entry.1 = 2 := by decide
      have hnumber : e.number = 2 := htable _ (mem_of_lookup hlookup) hkind
      cases e
      exact congrArg Errno.mk hnumber

/-- **Discarding** takes away what the path names, unless that is a directory.  Where it succeeds the
path names nothing any more. -/
theorem discard_eq_ok (h : a.discard.result cwd fs = (.ok (), fs')) :
    fs'.Vacant cwd a.path ∧
      (fs' = fs ∨ ∃ parent name, fs.Names cwd a.path parent name ∧
        ¬ fs.HoldsDirectory (parent ++ [name]) ∧ fs' = fs.erase (parent ++ [name])) := by
  rw [result_discard] at h
  split at h
  · cases h
  split at h
  · rename_i after hunlink
    cases h
    obtain ⟨parent, name, node, hnames, _, hnode, hplain, _, rfl⟩ := unlink_eq_ok_iff.1 hunlink
    refine ⟨vacant_erase hnames, .inr ⟨parent, name, hnames, ?_, rfl⟩⟩
    rintro ⟨_, _, hdirectory⟩
    rw [hnode] at hdirectory
    cases hdirectory
    cases hplain
  · rename_i code hunlink
    split at h <;> cases h
    rename_i hfound
    obtain rfl := eq_noEntry_of_isNotFound hfound
    exact ⟨vacant_of_unlink hunlink, .inl rfl⟩

/-- To promote is to require and to copy. -/
theorem result_promote (hfile : fs.isFile cwd a.path = true) :
    (a.promote b).result cwd fs =
      ((FileOp.copyAtomic a.path b.path).mapError (ArtifactError.promote a.path b.path)).result
        cwd fs := by
  have hrequire : a.require.result cwd fs = (.ok (), fs) := by
    rw [result_require, if_pos hfile]
  unfold promote
  rw [FileOp.result_bind_of_ok hrequire]

/-- A promotion either fails and nothing is seen of it, or the copy is in place. -/
theorem promote_cases (hfile : fs.isFile cwd a.path = true)
    (hdirectory : fs.isDirectory cwd (Staged.directoryOf b.path) = true) :
    (∃ e after, (a.promote b).result cwd fs = (.error e, after) ∧ Restored fs after) ∨
      ∃ after, (a.promote b).result cwd fs = (.ok (), after) ∧
        Staged.Copied cwd a.path b.path fs after := by
  rw [result_promote hfile]
  rcases FileOp.copyAtomic_cases hdirectory with
    ⟨e, after, hresult, hrestored⟩ | ⟨after, hresult, hcopied⟩
  · exact .inl ⟨_, after, by rw [FileOp.result_mapError, hresult]; rfl, hrestored⟩
  · exact .inr ⟨after, by rw [FileOp.result_mapError, hresult]; rfl, hcopied⟩

end Artifact

/-- Of three entries the first is a new file and the others are gone; all else is as before. -/
structure Settled (before after : FileSystem) (first second third : Location) (content : Bytes)
    (mode : Nat) : Prop where
  new : after.entryAt? first = some (.file content mode)
  gone₂ : after.entryAt? second = none
  gone₃ : after.entryAt? third = none
  frame : ∀ place, place ≠ first → place ≠ second → place ≠ third →
    after.entryAt? place = before.entryAt? place

/-- Taking two entries away behind a new one. -/
theorem Replaced.settled {first second third : Location} {content : Bytes} {mode : Nat}
    (h : Replaced fs fs' first content mode) (h₂ : second ≠ []) (h₃ : third ≠ [])
    (hne₂ : first ≠ second) (hne₃ : first ≠ third) :
    Settled fs ((fs'.erase second).erase third) first second third content mode where
  new := by
    rw [entryAt?_erase _ h₃, if_neg hne₃, entryAt?_erase _ h₂, if_neg hne₂, h.entryAt?, if_pos rfl]
  gone₂ := by
    rw [entryAt?_erase _ h₃, entryAt?_erase _ h₂]
    simp
  gone₃ := by
    rw [entryAt?_erase _ h₃, if_pos rfl]
  frame := by
    intro place hfirst hsecond hthird
    rw [entryAt?_erase _ h₃, if_neg hthird, entryAt?_erase _ h₂, if_neg hsecond, h.entryAt?,
      if_neg hfirst]

/-- Three artifacts that stand in one directory under different names. -/
structure Standing (fs : FileSystem) (cwd : Location) (first second third : Artifact)
    (parent : Location) (n₁ n₂ n₃ : String) : Prop where
  first : Stands fs cwd first.path parent n₁
  second : Stands fs cwd second.path parent n₂
  third : Stands fs cwd third.path parent n₃
  ne₁₂ : n₁ ≠ n₂
  ne₁₃ : n₁ ≠ n₃
  ne₂₃ : n₂ ≠ n₃

namespace Standing

variable {first second third : Artifact} {n₁ n₂ n₃ : String}

/-- Whatever becomes of the three entries, paths that named something still name it. -/
theorem names (h : Standing fs cwd first second third parent n₁ n₂ n₃)
    (hsame : ∀ place, place ≠ parent ++ [n₁] → place ≠ parent ++ [n₂] → place ≠ parent ++ [n₃] →
      fs'.nodeAt? place = fs.nodeAt? place)
    {up : Location} (hnames : fs.Names cwd p up name) : fs'.Names cwd p up name := by
  refine hnames.keep
    (fun place => place = parent ++ [n₁] ∨ place = parent ++ [n₂] ∨ place = parent ++ [n₃]) ?_ ?_
  · rintro up' last (heq | heq | heq) <;> obtain ⟨rfl, hlast⟩ := List.append_inj' heq rfl <;>
      cases hlast
    · exact h.first.blunt
    · exact h.second.blunt
    · exact h.third.blunt
  · intro place hplace
    simp only [not_or] at hplace
    exact alikeAt_of_eq (hsame place hplace.1 hplace.2.1 hplace.2.2)

/-- An entry that stands in the way of no promotion is no directory. -/
theorem isDirectory_eq_false {node : Node} (h : Stands fs cwd p parent name)
    (hnode : fs.nodeAt? (parent ++ [name]) = some node) : node.isDirectory = false := by
  cases node with
  | directory mode time => exact (h.blunt.plain ⟨mode, time, hnode⟩).elim
  | _ => rfl

/-- **Promotion.**  If the copy is in place, both removals succeed, and then three entries have
changed.  If it is not, nothing has. -/
theorem promotion (h : Standing fs cwd first second third parent n₁ n₂ n₃)
    (hfile : fs.isFile cwd third.path = true) (hnull₂ : second.path.hasNull = false)
    (hnull₃ : third.path.hasNull = false) :
    (∃ e after, (third.promote first).result cwd fs = (.error e, after) ∧ Restored fs after) ∨
      ∃ copied cut after content mode,
        (third.promote first).result cwd fs = (.ok (), copied) ∧
        second.remove.result cwd copied = (.ok (), cut) ∧
        third.remove.result cwd cut = (.ok (), after) ∧
        Settled fs after (parent ++ [n₁]) (parent ++ [n₂]) (parent ++ [n₃]) content mode ∧
        (∀ x, fs.read cwd third.path = .ok x → x = content) ∧
        (∀ entry, fs.stat cwd third.path = .ok entry → entry.mode = mode) ∧
        (∀ p up name, fs.Names cwd p up name → after.Names cwd p up name) := by
  rcases Artifact.promote_cases hfile h.first.named.isDirectory_directoryOf with
    herror | ⟨copied, hpromote, up, last, content, mode, hplaced, hread, hstat⟩
  · exact .inl herror
  right
  obtain ⟨rfl, rfl⟩ := hplaced.named.unique h.first.named
  have hnode : ∀ {name}, last ≠ name →
      copied.nodeAt? (up ++ [name]) = fs.nodeAt? (up ++ [name]) := by
    intro name hne
    rw [hplaced.replaced.node, if_neg]
    intro heq
    exact hne (List.append_singleton_inj.1 heq).2.symm
  have hparent : ∀ place, place ≠ up ++ [last] → copied.nodeAt? place = fs.nodeAt? place := by
    intro place hplace
    rw [hplaced.replaced.node, if_neg hplace]
  have hup : ∀ name : String, up ≠ up ++ [name] := by
    intro name heq
    simpa using congrArg List.length heq
  have hwritable : copied.writable up = .ok () := by
    rw [writable_congr (alikeAt_of_eq (hparent up (hup last))), hplaced.writable]
  -- The second artifact goes first, then the third; each time the directory is still there.
  obtain ⟨node₂, hnode₂⟩ := h.second.present
  obtain ⟨node₃, hnode₃⟩ := h.third.present
  have hremove₂ : second.remove.result cwd copied = (.ok (), copied.erase (up ++ [n₂])) := by
    refine Artifact.result_remove hnull₂ (h.names ?_ h.second.named) h.second.short
      ((hnode h.ne₁₂).trans hnode₂) (isDirectory_eq_false h.second hnode₂) hwritable
    intro place hplace _ _
    exact hparent place hplace
  have hremove₃ : third.remove.result cwd (copied.erase (up ++ [n₂])) =
      (.ok (), (copied.erase (up ++ [n₂])).erase (up ++ [n₃])) := by
    have hthere : (copied.erase (up ++ [n₂])).nodeAt? (up ++ [n₃]) = some node₃ := by
      rw [nodeAt?_erase _ (by simp), if_neg, hnode h.ne₁₃, hnode₃]
      intro heq
      exact h.ne₂₃ (List.append_singleton_inj.1 heq).2.symm
    refine Artifact.result_remove hnull₃ (h.names ?_ h.third.named) h.third.short hthere
      (isDirectory_eq_false h.third hnode₃) ?_
    · intro place hplace hplace' _
      rw [nodeAt?_erase _ (by simp), if_neg hplace', hparent place hplace]
    · rw [← hwritable]
      refine writable_congr (alikeAt_of_eq ?_)
      rw [nodeAt?_erase _ (by simp), if_neg (hup n₂)]
  refine ⟨copied, _, _, content, mode, hpromote, hremove₂, hremove₃, ?_, hread, hstat, ?_⟩
  · refine hplaced.replaced.settled (by simp) (by simp) ?_ ?_
    · intro heq
      exact h.ne₁₂ (List.append_singleton_inj.1 heq).2
    · intro heq
      exact h.ne₁₃ (List.append_singleton_inj.1 heq).2
  · intro p up' name hnames
    refine h.names ?_ hnames
    intro place hplace hplace' hplace''
    rw [nodeAt?_erase _ (by simp), if_neg hplace'', nodeAt?_erase _ (by simp), if_neg hplace',
      hparent place hplace]

end Standing

end Bootstrap
