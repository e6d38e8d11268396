import Bootstrap.FileSystem.Staging
import Bootstrap.Proofs.FileSystem.Calls
import Bootstrap.Proofs.Running

/-!
# Making directories

Making a directory with those it lies in adds directories where nothing was, and does
nothing else, also when it fails on the way.  A directory that is there is left alone.

* `Furnished`, `FurnishedOn` — a tree with more directories, and on which paths they lie;
* `FileOp.furnishes_makeDirectories` — whatever comes of it, directories on the way are
  all that is new;
* `FileOp.makeDirectories_of_isDirectory` — nothing happens to a directory that is there.
-/

namespace Bootstrap

open FileSystem

variable {cwd place : Location} {fs fs' fs'' : FileSystem} {p : Path}

/-- The same tree with directories in some places where nothing was. -/
structure Furnished (fs fs' : FileSystem) : Prop where
  node : ∀ place, fs'.nodeAt? place = fs.nodeAt? place ∨
    fs.nodeAt? place = none ∧ fs'.HoldsDirectory place
  file : ∀ number, fs'.file? number = fs.file? number

namespace Furnished

theorem refl (fs : FileSystem) : Furnished fs fs := ⟨fun _ => .inl rfl, fun _ => rfl⟩

theorem trans (h : Furnished fs fs') (h' : Furnished fs' fs'') : Furnished fs fs'' where
  node := by
    intro place
    rcases h'.node place with hsame' | ⟨hnone', hnew'⟩
    · rcases h.node place with hsame | ⟨hnone, ⟨mode, time, hnode⟩⟩
      · exact .inl (hsame'.trans hsame)
      · exact .inr ⟨hnone, mode, time, hsame'.trans hnode⟩
    · rcases h.node place with hsame | ⟨hnone, _⟩
      · exact .inr ⟨hsame ▸ hnone', hnew'⟩
      · exact .inr ⟨hnone, hnew'⟩
  file := fun number => (h'.file number).trans (h.file number)

/-- Nothing that was there has gone. -/
theorem kept (h : Furnished fs fs') : Kept fs fs' where
  node := by
    intro place node hnode
    rcases h.node place with hsame | ⟨hnone, _⟩
    · exact hsame.trans hnode
    · rw [hnone] at hnode
      cases hnode
  file := fun number file hfile => (h.file number).trans hfile

end Furnished

/-- More directories, each of them where one of some paths leads. -/
structure FurnishedOn (paths : List Path) (cwd : Location) (fs fs' : FileSystem) : Prop
    extends Furnished fs fs' where
  way : ∀ place, fs.nodeAt? place = none → fs'.nodeAt? place ≠ none →
    ∃ q ∈ paths, fs'.reach cwd q = .ok place

namespace FurnishedOn

variable {paths paths' : List Path}

theorem refl (paths : List Path) (cwd : Location) (fs : FileSystem) :
    FurnishedOn paths cwd fs fs where
  toFurnished := .refl fs
  way := fun _ hnone hsome => (hsome hnone).elim

theorem mono (h : FurnishedOn paths cwd fs fs') (hpaths : paths ⊆ paths') :
    FurnishedOn paths' cwd fs fs' where
  toFurnished := h.toFurnished
  way := by
    intro place hnone hsome
    obtain ⟨q, hq, hreach⟩ := h.way place hnone hsome
    exact ⟨q, hpaths hq, hreach⟩

/-- A path still leads to the directory that was made there when more have been made. -/
theorem trans (h : FurnishedOn paths cwd fs fs') (h' : FurnishedOn paths cwd fs' fs'') :
    FurnishedOn paths cwd fs fs'' where
  toFurnished := h.toFurnished.trans h'.toFurnished
  way := by
    intro place hnone hsome
    by_cases hmiddle : fs'.nodeAt? place = none
    · exact h'.way place hmiddle hsome
    · obtain ⟨q, hq, hreach⟩ := h.way place hnone hmiddle
      exact ⟨q, hq, h'.kept.reach hreach hmiddle⟩

/-- What one sees at a place is as it was, or a new directory. -/
theorem entry (h : FurnishedOn paths cwd fs fs') (place : Location) :
    fs'.entryAt? place = fs.entryAt? place ∨
      fs.entryAt? place = none ∧ fs'.HoldsDirectory place ∧
        ∃ q ∈ paths, fs'.reach cwd q = .ok place := by
  rcases h.node place with hsame | ⟨hnone, hnew⟩
  · exact .inl (entryAt?_congr hsame fun number _ => h.file number)
  · have hsome : fs'.nodeAt? place ≠ none := by
      obtain ⟨_, _, hnode⟩ := hnew
      simp [hnode]
    exact .inr ⟨by simp [entryAt?, hnone], hnew, h.way place hnone hsome⟩

end FurnishedOn

/-- A path leads to the directory that was made under its name. -/
theorem reach_of_made {parent : Location} {name : String} {slash : Bool}
    (hnamed : fs.reachParent cwd p = .ok ⟨parent, .name name, slash⟩)
    (hshort : ¬ nameLimit < name.utf8ByteSize) (hkept : Kept fs fs')
    (hnew : fs'.nodeAt? (parent ++ [name]) = some (.directory commonMode fs.now)) :
    fs'.reach cwd p = .ok (parent ++ [name]) := by
  obtain ⟨haccept, ⟨links, hle, htrail⟩, henters, hlast, _⟩ := reachParent_eq_ok_iff.1 hnamed
  have hplace : fs.nodeAt? parent ≠ none := by
    obtain ⟨_, _, hnode, _⟩ := henters
    simp [hnode]
  have hwhole := (hkept.trail htrail hplace).append
    (.enter (hkept.enters henters) hshort hnew (by simp) (.done _)) (hkept.enters henters)
  have hbare : p.bareSteps = p.bareSteps.dropLast ++ [.into name] := by
    rcases List.eq_nil_or_concat p.bareSteps with hnil | ⟨first, step, hsteps⟩
    · rw [hnil] at hlast
      cases hlast
    · rw [List.concat_eq_append] at hsteps
      rw [hsteps, List.getLast?_concat] at hlast
      cases step <;> cases hlast
      rw [hsteps, List.dropLast_concat]
  rw [← hbare] at hwhole
  refine reach_eq_ok_iff.2 ⟨haccept, links, hle, ?_⟩
  rw [Path.steps_eq]
  split
  · have hsearch : fs'.Enters (parent ++ [name]) := ⟨commonMode, fs.now, hnew, by decide⟩
    exact hwhole.append (.stay hsearch (.done _)) hsearch
  · rwa [List.append_nil]

namespace FileOp

variable {ε ε' α β : Type} {op : FileOp ε α} {next : α → FileOp ε β} {paths : List Path}

/-- The operation makes directories where some paths lead and changes nothing else. -/
def Furnishes (paths : List Path) (op : FileOp ε α) : Prop :=
  ∀ cwd fs, FurnishedOn paths cwd fs (op.result cwd fs).2

theorem Looks.furnishes (h : op.Looks) : op.Furnishes paths := by
  intro cwd fs
  rw [h cwd fs]
  exact .refl paths cwd fs

theorem Furnishes.bind (h : op.Furnishes paths) (hnext : ∀ a, (next a).Furnishes paths) :
    (op >>= next).Furnishes paths := by
  intro cwd fs
  have hop := h cwd fs
  rw [result_bind]
  rcases hresult : op.result cwd fs with ⟨_ | a, middle⟩
  · rwa [hresult] at hop
  · rw [hresult] at hop
    exact hop.trans (hnext a cwd middle)

theorem Furnishes.attempt (h : op.Furnishes paths) :
    (FileOp.attempt op : FileOp ε' (Except ε α)).Furnishes paths := h

theorem Furnishes.mono {paths' : List Path} (h : op.Furnishes paths) (hpaths : paths ⊆ paths') :
    op.Furnishes paths' :=
  fun cwd fs => (h cwd fs).mono hpaths

theorem furnishes_makeDirectory (p : Path) : (makeDirectory p).Furnishes [p] := by
  intro cwd fs
  unfold makeDirectory
  rw [result_checkPath_bind, result_change]
  split
  · exact .refl _ cwd fs
  · split
    · rename_i made hmade
      obtain ⟨parent, name, slash, hnamed, hshort, hnone, rfl⟩ := makeDirectory_eq_ok hmade
      have hnode : ∀ place, (fs.put (parent ++ [name]) (.directory commonMode)).nodeAt? place =
          if place = parent ++ [name] then some (.directory commonMode fs.now)
          else fs.nodeAt? place := fun place => nodeAt?_putNode _ (by simp) _ place
      have hfurnished : Furnished fs (fs.put (parent ++ [name]) (.directory commonMode)) := by
        refine ⟨fun place => ?_, fun number => rfl⟩
        by_cases hplace : place = parent ++ [name]
        · refine .inr ⟨hplace ▸ hnone, commonMode, fs.now, ?_⟩
          rw [hnode, if_pos hplace]
        · exact .inl ((hnode place).trans (if_neg hplace))
      refine ⟨hfurnished, fun place habsent hsome => ⟨p, List.mem_singleton_self p, ?_⟩⟩
      by_cases hplace : place = parent ++ [name]
      · rw [hplace]
        exact reach_of_made hnamed hshort hfurnished.kept ((hnode _).trans (if_pos rfl))
      · rw [hnode, if_neg hplace] at hsome
        exact (hsome habsent).elim
    · exact .refl _ cwd fs

theorem looks_settle (p : Path) (outcome : Except IoError Unit) :
    (makeAncestors.settle p outcome).Looks := by
  intro cwd fs
  unfold makeAncestors.settle
  split
  · rfl
  · rw [result_bind_of_ok result_current, result_bind_of_ok result_here]
    split <;> rfl

theorem furnishes_makeAncestors (paths : List Path) : (makeAncestors paths).Furnishes paths := by
  induction paths with
  | nil => exact looks_fail.furnishes
  | cons p up ih =>
      have hmade : (attempt (makeDirectory p) : FileOp IoError _).Furnishes (p :: up) :=
        ((furnishes_makeDirectory p).mono (by simp)).attempt
      unfold makeAncestors
      split
      · exact (looks_pure ()).furnishes
      · refine hmade.bind fun outcome => ?_
        split
        · exact (looks_pure ()).furnishes
        · split
          · exact (ih.mono (List.subset_cons_self p up)).bind fun _ =>
              hmade.bind fun _ => (looks_settle _ _).furnishes
          · exact (looks_settle _ _).furnishes

/-- Whatever comes of it, directories on the way are all that is new. -/
theorem furnishes_makeDirectories (p : Path) : (makeDirectories p).Furnishes p.ancestors :=
  furnishes_makeAncestors p.ancestors

/-- Nothing happens to a directory that is there. -/
theorem makeDirectories_of_isDirectory (h : fs.isDirectory cwd p = true) :
    (makeDirectories p).result cwd fs = (.ok (), fs) := by
  have hmake : ∃ e, (makeDirectory p).result cwd fs = (.error e, fs) ∧ e.isNotFound = false := by
    obtain ⟨e, hcall, hfound⟩ := makeDirectory_of_isDirectory commonMode h
    unfold makeDirectory
    rw [result_checkPath_bind, result_change, hcall]
    split
    · exact ⟨_, rfl, by decide⟩
    · exact ⟨_, rfl, hfound⟩
  obtain ⟨e, hmake, hfound⟩ := hmake
  unfold makeDirectories Path.ancestors Path.ancestorsWithin makeAncestors
  split
  · rfl
  rw [result_bind_of_ok result_attempt, hmake]
  simp only [hfound, Bool.false_eq_true, if_false]
  unfold makeAncestors.settle
  rw [result_bind_of_ok result_current, result_bind_of_ok result_here, if_pos h]
  rfl

end FileOp

/-- The tree in which a file is staged for a destination: the directories on the way have been made,
as far as they could be. -/
def Staged.ground (destination : Path) (cwd : Location) (fs : FileSystem) : FileSystem :=
  ((FileOp.makeDirectories (Staged.directoryOf destination)).result cwd fs).2

theorem Staged.furnishedOn_ground (destination : Path) (cwd : Location) (fs : FileSystem) :
    FurnishedOn (Staged.directoryOf destination).ancestors cwd fs
      (Staged.ground destination cwd fs) :=
  FileOp.furnishes_makeDirectories _ cwd fs

end Bootstrap
