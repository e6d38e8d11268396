import Bootstrap.Proofs.FileSystem.Directories
import Bootstrap.Proofs.FileSystem.Staging

/-!
# Trees that only grow

Directories are made and files are put in place of what is no directory.  A path may lose
its way by this, when a link on it gives way to a file; but as long as it leads somewhere
it leads to where it led.

* `Grown` — a tree that has only grown;
* `Names.agree` — a path that names an entry still names the same one;
* `Names.agree_below` — where the directory of that entry is in the end;
* `Placed.names_after` — a path names the file that was put in its place, if it leads
  anywhere;
* `KeptAt` — an entry that is still there;
* `Placed.names` — what was put in the place of a blunt name bends no path.
-/

namespace Bootstrap

open FileSystem

namespace FileSystem

variable {fs fs' fs'' : FileSystem} {cwd parent parent' place : Location} {p : Path}
variable {name name' inner : String} {q : Path} {first : List PathStep}

/-- Everywhere the tree has stayed as it was or has grown. -/
def Grown (fs fs' : FileSystem) : Prop := ∀ place, GrownAt fs fs' place

theorem Grown.refl (fs : FileSystem) : Grown fs fs := fun _ => .inl rfl

/-- A directory stays a directory, with the bits it had. -/
theorem GrownAt.alike_of_directory (h : GrownAt fs fs' place) (hplace : fs.HoldsDirectory place) :
    AlikeAt fs fs' place := by
  rcases h with h | ⟨hnone, _⟩ | ⟨hplain, _⟩
  · exact h
  · obtain ⟨_, _, hnode⟩ := hplace
    rw [hnone] at hnode
    cases hnode
  · exact (hplain hplace).elim

theorem Grown.enters (h : Grown fs fs') (henters : fs.Enters place) : fs'.Enters place :=
  ((h place).alike_of_directory henters.holdsDirectory).enters henters

/-- What is as a directory was is a directory. -/
theorem AlikeAt.holdsDirectory (h : AlikeAt fs fs' place) (hplace : fs.HoldsDirectory place) :
    fs'.HoldsDirectory place :=
  GrownAt.holdsDirectory (.inl h) hplace

theorem GrownAt.trans (h : GrownAt fs fs' place) (h' : GrownAt fs' fs'' place) :
    GrownAt fs fs'' place := by
  rcases h with hsame | ⟨hnone, hnew⟩ | ⟨hplain, number, hfile⟩
  · rcases h' with hsame' | ⟨hnone', hnew'⟩ | ⟨hplain', hfile'⟩
    · exact .inl (Eq.trans hsame' hsame)
    · exact .inr (.inl ⟨AlikeAt.none hsame.symm hnone', hnew'⟩)
    · exact .inr (.inr ⟨fun hplace => hplain' (hsame.holdsDirectory hplace), hfile'⟩)
  · exact .inr (.inl ⟨hnone, h'.holdsDirectory hnew⟩)
  · rcases h' with hsame' | ⟨hnone', _⟩ | ⟨_, hfile'⟩
    · refine .inr (.inr ⟨hplain, number, ?_⟩)
      rw [AlikeAt, hfile] at hsame'
      obtain ⟨node, hnode, hstill⟩ := Option.map_eq_some_iff.1 hsame'
      cases node <;> cases hstill
      exact hnode
    · rw [hfile] at hnone'
      cases hnone'
    · exact .inr (.inr ⟨hplain, hfile'⟩)

theorem Grown.trans (h : Grown fs fs') (h' : Grown fs' fs'') : Grown fs fs'' :=
  fun place => (h place).trans (h' place)

/-- **A path that names an entry still names the same one.** -/
theorem Names.agree (h : fs.Names cwd p parent name) (h' : fs'.Names cwd p parent' name')
    (hgrown : Grown fs fs') : parent' = parent ∧ name' = name := by
  obtain ⟨_, _, first, hends, _, _, htrail⟩ := names_iff.1 h
  obtain ⟨_, henters', first', hends', _, _, htrail'⟩ := names_iff.1 h'
  obtain ⟨rfl, rfl⟩ := hends.unique hends'
  exact ⟨(htrail'.agree henters'.holdsDirectory hgrown htrail).symm, rfl⟩

/-- What is read at a path that names a file is the content of that file. -/
theorem Names.content_of_read {x content : Bytes} {mode : Nat} (h : fs.Names cwd p parent name)
    (hshort : ¬ nameLimit < name.utf8ByteSize)
    (hentry : fs.entryAt? (parent ++ [name]) = some (.file content mode))
    (hread : fs.read cwd p = .ok x) : x = content := by
  obtain ⟨node, hnode, hplain⟩ := exists_plain_of_entryAt? hentry
  obtain ⟨entry, hstat, _, hcases⟩ := read_eq_ok_iff.1 hread
  obtain ⟨place, hreach, hfound⟩ := stat_eq_ok_iff.1 hstat
  rw [h.reach_of_plain hshort hnode hplain] at hreach
  cases hreach
  rw [hentry] at hfound
  cases hfound
  rcases hcases with ⟨_, heq⟩ | ⟨_, ⟨_, _, heq⟩ | ⟨_, heq⟩⟩ <;> cases heq
  rfl

/-- The place that a path names, whatever stands there. -/
def namedPlace? (fs : FileSystem) (cwd : Location) (p : Path) : Option Location :=
  match fs.reachParent cwd p with
  | .ok ⟨parent, .name name, false⟩ => some (parent ++ [name])
  | _ => none

theorem Names.namedPlace? (h : fs.Names cwd p parent name) :
    fs.namedPlace? cwd p = some (parent ++ [name]) := by
  unfold FileSystem.namedPlace?
  rw [show fs.reachParent cwd p = .ok ⟨parent, .name name, false⟩ from h]

theorem namedPlace?_eq_some (hends : p.Ends first name) (h : fs.namedPlace? cwd p = some place) :
    ∃ parent, fs.Names cwd p parent name ∧ place = parent ++ [name] := by
  unfold namedPlace? at h
  split at h
  · rename_i parent name' hnamed
    cases h
    obtain ⟨_, _, _, hends', _⟩ := names_iff.1 (show fs.Names cwd p parent name' from hnamed)
    obtain ⟨_, rfl⟩ := hends.unique hends'
    exact ⟨parent, hnamed, rfl⟩
  · cases h

/-- **An entry of a directory that is there in the end.**  If the path without its last name names a
directory in the grown tree, that directory is the one the entry is in. -/
theorem Names.agree_below {mode : Nat} (h : fs.Names cwd q parent name)
    (hp : p.Ends first inner) (hq : q.Ends (first ++ [.into inner]) name')
    (habsolute : q.isAbsolute = p.isAbsolute) (hgrown : Grown fs fs')
    (hstat : fs'.linkStat cwd p = .ok (.directory mode)) :
    ∃ outer links, parent = outer ++ [inner] ∧ name = name' ∧
      Trail fs' links (origin cwd p) first outer ∧ fs'.Enters outer ∧
      ¬ nameLimit < inner.utf8ByteSize ∧ fs'.Names cwd q parent name := by
  obtain ⟨outer, hnamed, hshort, hentry⟩ := names_of_linkStat hp hstat
  have hplace : fs'.HoldsDirectory (outer ++ [inner]) := holdsDirectory_iff.2 ⟨mode, hentry⟩
  obtain ⟨links, hle, hway⟩ := hnamed.trail_into hp hshort hplace
  obtain ⟨haccept, henters, first', hends, _, _, htrail⟩ := names_iff.1 h
  obtain ⟨rfl, rfl⟩ := hends.unique hq
  have horigin : origin cwd q = origin cwd p := by rw [origin, habsolute, ← origin]
  rw [horigin] at htrail
  obtain rfl := hway.agree hplace hgrown htrail
  obtain ⟨_, houter, _, hends', links', _, htrail'⟩ := names_iff.1 hnamed
  obtain ⟨rfl, _⟩ := hp.unique hends'
  refine ⟨outer, links', rfl, rfl, htrail', houter, hshort, ?_⟩
  refine names_iff.2 ⟨haccept, hgrown.enters henters, _, hends, links, hle, ?_⟩
  rwa [horigin]

end FileSystem

variable {cwd parent place : Location} {before after now : FileSystem} {p : Path} {name : String}
variable {content : Bytes} {mode : Nat}

theorem Furnished.grown (h : Furnished before after) : Grown before after := by
  intro place
  rcases h.node place with hsame | hnew
  · exact .inl (alikeAt_of_eq hsame)
  · exact .inr (.inl hnew)

/-- A file in place of what is no directory. -/
theorem Replaced.grown (h : Replaced before after place content mode)
    (hplain : ¬ before.HoldsDirectory place) : Grown before after := by
  intro other
  have hnode := h.node other
  by_cases hother : other = place
  · rw [if_pos hother] at hnode
    exact .inr (.inr ⟨hother ▸ hplain, _, hnode⟩)
  · rw [if_neg hother] at hnode
    exact .inl (alikeAt_of_eq hnode)

namespace Placed

theorem grown (h : Placed before after cwd p parent name content mode) : Grown before after :=
  h.replaced.grown h.plain

/-- **A path names the file that was put in its place**, if it leads anywhere. -/
theorem names_after (h : Placed before after cwd p parent name content mode)
    (hreach : after.reach cwd p = .ok place) :
    after.Names cwd p parent name ∧ place = parent ++ [name] := by
  obtain ⟨_, _, first, hends, _⟩ := names_iff.1 h.named
  obtain ⟨parent', links, hnames, htrail⟩ := names_of_reach hends hreach
  obtain ⟨rfl, _⟩ := h.named.agree hnames h.grown
  refine ⟨hnames, ?_⟩
  have hnode := h.replaced.node (parent' ++ [name])
  rw [if_pos rfl] at hnode
  cases htrail with
  | missing => rfl
  | follow _ _ hlink => rw [hnode] at hlink; cases hlink
  | enter _ _ _ _ tail => cases tail; rfl

/-- What is read at the path is what was put there. -/
theorem content_of_read {x : Bytes} (h : Placed before after cwd p parent name content mode)
    (hread : after.read cwd p = .ok x) : x = content := by
  obtain ⟨_, hstat, _⟩ := read_eq_ok_iff.1 hread
  obtain ⟨place, hreach, _⟩ := stat_eq_ok_iff.1 hstat
  have hentry : after.entryAt? (parent ++ [name]) = some (.file content mode) := by
    rw [h.replaced.entryAt?, if_pos rfl]
  exact (h.names_after hreach).1.content_of_read h.short hentry hread

/-- A file that is not empty is as long as what is read of it. -/
theorem size_of_read {x : Bytes} {entry : Entry} (h : Placed before after cwd p parent name content mode)
    (hne : content ≠ []) (hstat : after.stat cwd p = .ok entry) (hread : after.read cwd p = .ok x) :
    entry.size = content.length := by
  have hsame := h.content_of_read hread
  obtain ⟨found, hfound, _, ⟨mode, rfl⟩ | ⟨hempty, _⟩⟩ := read_eq_ok_iff.1 hread
  · cases hfound.symm.trans hstat
    exact congrArg List.length hsame
  · exact (hne (hsame.symm.trans hempty)).elim

end Placed

/-! ### Entries that outlast -/

/-- What stood at the place still stands there. -/
def KeptAt (fs fs' : FileSystem) (place : Location) : Prop :=
  ∀ entry, fs.entryAt? place = some entry → fs'.entryAt? place = some entry

theorem KeptAt.refl (fs : FileSystem) (place : Location) : KeptAt fs fs place := fun _ h => h

theorem KeptAt.trans (h : KeptAt before now place) (h' : KeptAt now after place) :
    KeptAt before after place :=
  fun entry hentry => h' entry (h entry hentry)

theorem Furnished.keptAt (h : Furnished before after) (place : Location) :
    KeptAt before after place :=
  fun _ hentry => h.kept.entryAt? hentry

/-- What is put in place of one entry is survived by all others. -/
theorem Placed.keptAt (h : Placed before after cwd p parent name content mode)
    (hne : place ≠ parent ++ [name]) : KeptAt before after place := by
  intro entry hentry
  rw [h.replaced.entryAt?, if_neg hne, hentry]

/-! ### What becomes of names -/

theorem Restored.keptAt (h : Restored before after) (place : Location) : KeptAt before after place :=
  fun _ hentry => (h.entryAt? place).trans hentry

theorem Restored.grown (h : Restored before after) : Grown before after :=
  fun place => .inl (alikeAt_of_eq (h.node place))

theorem Restored.names (h : Restored before after) (hnamed : before.Names cwd p parent name) :
    after.Names cwd p parent name :=
  hnamed.keep (fun _ => False) (fun _ _ hno => hno.elim) fun place _ => alikeAt_of_eq (h.node place)

theorem Restored.vacant (h : Restored before after) (hvacant : before.Vacant cwd p) :
    after.Vacant cwd p := by
  intro parent name hnamed
  rw [h.node]
  refine hvacant parent name ?_
  exact hnamed.keep (fun _ => False) (fun _ _ hno => hno.elim)
    fun place _ => alikeAt_of_eq (h.node place).symm

/-- What was put in the place of a blunt name bends no path. -/
theorem Placed.names {destination : Path} {parent' : Location} {name' : String}
    (h : Placed before after cwd destination parent' name' content mode)
    (hblunt : before.Blunt parent' name') (hnamed : before.Names cwd p parent name) :
    after.Names cwd p parent name := by
  refine hnamed.keep (· = parent' ++ [name']) ?_ ?_
  · intro up last hplace
    obtain ⟨rfl, rfl⟩ := List.append_singleton_inj.1 hplace
    exact hblunt
  · intro place hplace
    have hnode := h.replaced.node place
    rw [if_neg hplace] at hnode
    exact alikeAt_of_eq hnode

end Bootstrap
