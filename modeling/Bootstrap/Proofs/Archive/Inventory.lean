import Bootstrap.Proofs.Archive.Omission
import Bootstrap.Proofs.Archive.TreeName
import Mathlib.Data.List.Forall2

/-!
# What an archive lists

A finished archive lists the toolchain binary and then every tree by a depth-first walk.
The walk is through the tree as it stands when the directories of the archive have been
made; the staging file is in the tree by then, but it is left out, and so is the archive.
What a path of the walk leads to decides on what is listed under its name.

* `ArchiveSpec.Clear` — the archive is where a walk knows it;
* `ArchiveSpec.Packed.skipped_iff` — what is left out is what stands where the archive or
  its staging file does;
* `ArchiveSpec.ListsTree` — the list of a tree;
* `ArchiveSpec.make_lists` — **the list of a finished archive**.
-/

namespace Bootstrap

open FileSystem

/-- What a reader finds, under a name, of an entry that was packed.  Only files and directories can
be. -/
def Entry.listed? (stored : Bytes) : Entry → Option Tar.Listed
  | .file content mode => some ⟨stored, Tar.Kind.file.flag,
      if (Entry.file content mode).allows 1 then 0o755 else 0o644, content.length, Tar.fixedTime, content⟩
  | .directory _ => some ⟨stored, Tar.Kind.directory.flag, 0o755, 0, Tar.fixedTime, []⟩
  | _ => none

namespace ArchiveSpec

/-- The path of a tree, made absolute. -/
def treePath (spec : ArchiveSpec) (cwd : Location) (tree : Path) : Path :=
  (spec.root.join tree).absoluteFrom (pathOf cwd)

/-- The path of the archive, made absolute. -/
def outputPath (spec : ArchiveSpec) (cwd : Location) : Path :=
  spec.output.absoluteFrom (pathOf cwd)

/-- **The archive is where a walk knows it.**  It lies in no tree, or its path goes on from that of
each tree it lies in, by names and past no link. -/
def Clear (spec : ArchiveSpec) (cwd : Location) (fs : FileSystem) : Prop :=
  ∀ tree ∈ spec.trees, ∀ top up last, fs.reach cwd (spec.root.join tree) = .ok top →
    fs.Names cwd spec.output up last → top <+: up →
    ∃ names : Location, names ≠ [] ∧
      (spec.outputPath cwd).solidSteps = (spec.treePath cwd tree).solidSteps ++ names.map .into ∧
      ∀ front, front <+: names → front ≠ names →
        ∀ target, fs.nodeAt? (top ++ front) ≠ some (.link target)

/-- What is left out of the list of the tree at `top`: the entry of the archive, which is at `out`,
and the tree's own entry if the tree and the archive are given by one path. -/
def Omits (spec : ArchiveSpec) (cwd : Location) (tree : Path) (top out names : Location) : Prop :=
  top ++ names = out ∨
    names = [] ∧ (spec.treePath cwd tree).sameComponents (spec.outputPath cwd) = true

instance (spec : ArchiveSpec) (cwd : Location) (tree : Path) (top out names : Location) :
    Decidable (spec.Omits cwd tree top out names) :=
  inferInstanceAs (Decidable (_ ∨ _ ∧ _))

/-- What a path leads to while an archive is filled: what it led to before there was a staging file,
or the staging file with what is in it by then. -/
def Meets (cwd : Location) (made now : FileSystem) (staging : Location) (p : Path) (entry : Entry) :
    Prop :=
  made.stat cwd p = .ok entry ∨
    now.reach cwd p = .ok staging ∧ entry = .file Gzip.header stagingMode

/-- **The list of a tree**: a depth-first walk without the archive, each entry under its stored name
with what its path leads to. -/
def ListsTree (spec : ArchiveSpec) (cwd : Location) (made now : FileSystem) (out staging : Location)
    (tree : Path) (part : List Tar.Listed) : Prop :=
  ∃ top ways, made.reach cwd (spec.root.join tree) = .ok top ∧ DepthFirst made top [] ways ∧
    List.Forall₂
      (fun names listed => ∃ entry,
        Meets cwd made now staging (Tree.below (spec.treePath cwd tree) names) entry ∧
          entry.listed? (Tree.storedName tree names) = some listed)
      (ways.filter fun names => !decide (spec.Omits cwd tree top out names)) part

end ArchiveSpec

namespace FileSystem

variable {fs : FileSystem} {cwd top up names : Location} {base p : Path} {last : String}
variable {links : Nat}

/-- **A path of a walk is known by what stands there**: if something stands at the end of a way down,
and the path to it is that of some entry, then it is this entry. -/
theorem Sound.place_of_sameComponents (hsound : fs.Sound)
    (hcwd : p.isAbsolute = true ∨ fs.HoldsDirectory cwd) (hnamed : fs.Names cwd p up last)
    (hbase : base.isAbsolute = true) (htop : Trail fs links [] base.solidSteps top)
    (hne : names ≠ []) (hstands : fs.nodeAt? (top ++ names) ≠ none)
    (hsame : (Tree.below base names).sameComponents (p.absoluteFrom (pathOf cwd)) = true) :
    top ++ names = up ++ [last] := by
  have hproper : ∀ name ∈ names, ProperName name := by
    obtain ⟨node, hnode⟩ := Option.ne_none_iff_exists'.1 hstands
    intro name hname
    exact hsound.proper _ _ hnode name (List.mem_append_right _ hname)
  rw [Path.sameComponents_iff ((Path.below_spec base hproper).2.trans hbase)
    (Path.isAbsolute_absoluteFrom_pathOf p cwd), Path.solidSteps_below base hproper] at hsame
  refine (hsound.place_of_spelled hcwd hnamed htop hsame.symm hne ?_).symm
  rintro front ⟨more, rfl⟩ hshort target
  rw [← List.append_assoc] at hstands
  have hmore : more ≠ [] := by
    rintro rfl
    exact hshort (List.append_nil _).symm
  exact (hsound.holdsDirectory_above hstands hmore).ne_link target

end FileSystem

namespace ArchiveSpec

variable {spec : ArchiveSpec} {cwd top up names parent : Location} {tree output own base : Path}
variable {before made now after : FileSystem} {staged : Staged} {name last : String}
variable {walks : List (Path × List Found)} {founds : List Found} {program : Tar.Member}
variable {block : Bytes} {members : List Tar.Member} {blocks : List Bytes} {links : Nat}

theorem isAbsolute_treePath (spec : ArchiveSpec) (cwd : Location) (tree : Path) :
    (spec.treePath cwd tree).isAbsolute = true :=
  Path.isAbsolute_absoluteFrom_pathOf _ cwd

/-- What was found on a walk is known by its path and its name, and so by the way down to it. -/
theorem map_found (skip : List Path) (tree base : Path) (isDirectory : Bool)
    (listing : List (Location × Entry)) :
    (((⟨base, Tree.nameIn tree [], isDirectory⟩ : Found) ::
        listing.map fun (names, entry) =>
          ⟨Tree.below base names, Tree.nameIn tree names, entry.isDirectory⟩).filter
        fun f => !skip.any f.path.sameComponents).map (fun f => (f.path, f.name)) =
      (([] :: listing.map Prod.fst).filter fun names =>
        !skip.any (Tree.below base names).sameComponents).map
          fun names => (Tree.below base names, Tree.nameIn tree names) := by
  have hall : ((⟨base, Tree.nameIn tree [], isDirectory⟩ : Found) ::
        listing.map fun (names, entry) =>
          ⟨Tree.below base names, Tree.nameIn tree names, entry.isDirectory⟩).map
        (fun f => (f.path, f.name)) =
      ([] :: listing.map Prod.fst).map
        fun names => (Tree.below base names, Tree.nameIn tree names) := by
    rw [List.map_cons, List.map_cons, List.map_map, List.map_map]
    rfl
  have hstays : ∀ {α : Type} (f : α → Path × Path) (xs : List α),
      (xs.filter fun x => !skip.any (f x).1.sameComponents).map f =
        (xs.map f).filter fun x => !skip.any x.1.sameComponents := by
    intro α f xs
    rw [List.filter_map]
    rfl
  rw [hstays fun names => (Tree.below base names, Tree.nameIn tree names), ← hall]
  exact hstays (fun f : Found => (f.path, f.name)) _

namespace Packed

theorem sound_made
    (h : spec.Packed cwd before made now after staged parent name output own walks program block
      members blocks) (hsound : before.Sound) : made.Sound := by
  rw [h.ground]
  exact FileOp.keeps_makeAncestors _ cwd before hsound

theorem sound_now
    (h : spec.Packed cwd before made now after staged parent name output own walks program block
      members blocks) (hsound : before.Sound) : now.Sound := by
  obtain ⟨fresh, hcreated, hnodes⟩ := h.created
  have hfresh := Staged.keeps_create spec.output cwd before hsound
  rw [hcreated] at hfresh
  exact hfresh.congr hnodes

/-- Every tree is a directory. -/
theorem exists_top
    (h : spec.Packed cwd before made now after staged parent name output own walks program block
      members blocks) (htree : tree ∈ spec.trees) :
    ∃ top, made.reach cwd (spec.root.join tree) = .ok top ∧ made.HoldsDirectory top := by
  have hinputs := h.inputs
  unfold missingInput? at hinputs
  split at hinputs
  · have hdirectory := List.find?_eq_none.1 hinputs tree htree
    rw [Bool.not_eq_true, Bool.not_eq_false', isDirectory_iff] at hdirectory
    obtain ⟨mode, hstat⟩ := hdirectory
    obtain ⟨top, hreach, hentry⟩ := stat_eq_ok_iff.1 (h.furnished.kept.stat hstat)
    exact ⟨top, hreach, holdsDirectory_iff.2 ⟨mode, hentry⟩⟩
  · cases hinputs

/-- A walk begins where its tree stands. -/
theorem trail_walked_top {skip : List Path}
    (h : spec.Packed cwd before made now after staged parent name output own walks program block
      members blocks) (hsound : before.Sound)
    (htop : made.reach cwd (spec.root.join tree) = .ok top) (hplace : made.HoldsDirectory top)
    (hwalked : spec.Walked cwd now skip tree founds) :
    (∃ links, Trail now links [] (spec.treePath cwd tree).solidSteps top) ∧
      founds.map (fun f => (f.path, f.name)) =
        (([] :: (Tree.listing now top).map Prod.fst).filter fun names =>
          !skip.any (Tree.below (spec.treePath cwd tree) names).sameComponents).map
            fun names => (Tree.below (spec.treePath cwd tree) names, Tree.nameIn tree names) := by
  obtain ⟨base, all, hbase, hwalk, rfl⟩ := hwalked
  obtain ⟨_, rfl, hcwd⟩ := FileOp.absolute_eq_ok hbase
  obtain ⟨place, hlocate, hwalk⟩ := bind_eq_ok_iff.1 hwalk
  obtain ⟨rootEntry, _, hwalk⟩ := bind_eq_ok_iff.1 hwalk
  cases hwalk
  obtain ⟨_, hreach, hthere⟩ := bind_eq_ok_iff.1 hlocate
  obtain ⟨links, htrail⟩ := trail_of_reach hreach
  rw [origin, Path.isAbsolute_absoluteFrom_pathOf, if_pos rfl] at htrail
  have hkept : now.reach cwd (spec.root.join tree) = .ok top := by
    obtain ⟨_, _, hnode⟩ := hplace
    exact h.holds.kept.reach htop (by simp [hnode])
  have hsame := (h.sound_now hsound).eq_of_absolute hcwd hkept htrail
  split at hthere <;> cases hthere
  obtain rfl := hsame
  exact ⟨⟨links, htrail⟩, map_found skip tree _ _ _⟩

/-- What a path names, and what it says, while an archive is filled. -/
theorem output_spec
    (h : spec.Packed cwd before made now after staged parent name output own walks program block
      members blocks) :
    output = spec.outputPath cwd ∧ (spec.output.isAbsolute = true ∨ now.HoldsDirectory cwd) := by
  obtain ⟨_, houtput, hcwd⟩ := FileOp.absolute_eq_ok h.outputPath
  exact ⟨houtput, hcwd⟩

theorem own_spec
    (h : spec.Packed cwd before made now after staged parent name output own walks program block
      members blocks) :
    own = staged.path.absoluteFrom (pathOf cwd) ∧
      (staged.path.isAbsolute = true ∨ now.HoldsDirectory cwd) := by
  obtain ⟨_, hown, hcwd⟩ := FileOp.absolute_eq_ok h.ownPath
  exact ⟨hown, hcwd⟩

/-- The staging file is beside the archive, and so are their paths. -/
theorem beside
    (h : spec.Packed cwd before made now after staged parent name output own walks program block
      members blocks) (hsound : before.Sound) (hnamed : made.Names cwd spec.output up last) :
    parent = up ∧ ∃ front : List PathStep,
      (spec.outputPath cwd).solidSteps = front ++ [.into last] ∧
        own.solidSteps = front ++ [.into name] := by
  obtain ⟨fresh, hcreated, _⟩ := h.created
  obtain ⟨_, hcwd⟩ := h.output_spec
  obtain ⟨hparent, habsolute, front, houtput, hown⟩ := Staged.parent_eq (h.sound_now hsound) hcwd
    hcreated (h.holds.names h.holds.named) (h.holds.names hnamed)
  refine ⟨hparent, front, houtput, ?_⟩
  rw [h.own_spec.1, Path.solidSteps_absoluteFrom, habsolute, if_pos rfl, List.nil_append, hown]

/-- The path of a tree is not that of the staging file. -/
theorem treePath_ne_own
    (h : spec.Packed cwd before made now after staged parent name output own walks program block
      members blocks) (hplace : made.HoldsDirectory top)
    (htrail : Trail now links [] (spec.treePath cwd tree).solidSteps top)
    (hsound : before.Sound) : (spec.treePath cwd tree).sameComponents own = false := by
  rw [Bool.eq_false_iff]
  intro hsame
  obtain ⟨hown, hcwd⟩ := h.own_spec
  rw [hown, Path.sameComponents_iff (isAbsolute_treePath spec cwd tree)
    (Path.isAbsolute_absoluteFrom_pathOf _ _)] at hsame
  rw [hsame] at htrail
  have hfile : now.reach cwd staged.path = .ok (parent ++ [name]) :=
    (h.holds.names h.holds.named).reach_of_plain h.holds.short h.holds.node_self (by simp)
  obtain rfl := (h.sound_now hsound).eq_of_absolute hcwd hfile htrail
  obtain ⟨_, _, hnode⟩ := hplace
  rw [h.holds.free] at hnode
  cases hnode

/-- In a clear tree the path of the archive goes on from that of the tree as the archive's directory
does. -/
theorem inner_of_beside {other : String}
    (h : spec.Packed cwd before made now after staged parent name output own walks program block
      members blocks) (hsound : before.Sound) (hclear : spec.Clear cwd made)
    (htree : tree ∈ spec.trees) (htop : made.reach cwd (spec.root.join tree) = .ok top)
    (htrail : Trail now links [] (spec.treePath cwd tree).solidSteps top)
    (hnamed : made.Names cwd spec.output up last) (hne : names ≠ [])
    (hbeside : top ++ names = up ++ [other]) :
    ∃ inner, names = inner ++ [other] ∧
      (spec.outputPath cwd).solidSteps =
        (spec.treePath cwd tree).solidSteps ++ inner.map .into ++ [.into last] := by
  obtain ⟨inner, final, rfl⟩ := (List.eq_nil_or_concat names).resolve_left hne
  rw [List.concat_eq_append, ← List.append_assoc] at hbeside
  obtain ⟨rfl, rfl⟩ := List.append_singleton_inj.1 hbeside
  obtain ⟨spelled, hspelled, hsteps, hplain⟩ :=
    hclear tree htree top _ last htop hnamed (List.prefix_append _ _)
  have hplace := (h.sound_now hsound).place_of_spelled h.output_spec.2 (h.holds.names hnamed) htrail
    hsteps hspelled fun front hfront hshort target => by
      by_cases hstaged : top ++ front = parent ++ [name]
      · rw [hstaged, h.holds.node_self]
        simp
      · rw [h.holds.node_of_ne hstaged]
        exact hplain front hfront hshort target
  rw [List.append_assoc] at hplace
  obtain rfl := List.append_cancel_left hplace
  refine ⟨inner, List.concat_eq_append, ?_⟩
  rw [hsteps, List.map_append, List.map_singleton, ← List.append_assoc]

/-- **What is left out of a tree** is what stands where the archive or its staging file does, and the
tree's own entry if it has the path of the archive. -/
theorem skipped_iff
    (h : spec.Packed cwd before made now after staged parent name output own walks program block
      members blocks) (hsound : before.Sound) (hclear : spec.Clear cwd made)
    (htree : tree ∈ spec.trees) (htop : made.reach cwd (spec.root.join tree) = .ok top)
    (hplace : made.HoldsDirectory top)
    (htrail : Trail now links [] (spec.treePath cwd tree).solidSteps top)
    (hnamed : made.Names cwd spec.output up last)
    (hplain : ¬ made.HoldsDirectory (up ++ [last]))
    (hstands : names = [] ∨ now.nodeAt? (top ++ names) ≠ none) :
    ([output, own].any (Tree.below (spec.treePath cwd tree) names).sameComponents) = true ↔
      top ++ names = parent ++ [name] ∨ spec.Omits cwd tree top (up ++ [last]) names := by
  obtain ⟨houtput, hcwd⟩ := h.output_spec
  obtain ⟨hown, hcwd'⟩ := h.own_spec
  have hany : ([output, own].any (Tree.below (spec.treePath cwd tree) names).sameComponents) = true ↔
      (Tree.below (spec.treePath cwd tree) names).sameComponents output = true ∨
        (Tree.below (spec.treePath cwd tree) names).sameComponents own = true := by
    simp
  rw [hany]
  unfold Omits
  by_cases hne : names = []
  · -- The tree itself is no file, so it is not where the archive or its staging file is.
    subst hne
    have hown' : (Tree.below (spec.treePath cwd tree) []).sameComponents own = false :=
      h.treePath_ne_own hplace htrail hsound
    have hstaging : top ≠ parent ++ [name] := by
      rintro rfl
      obtain ⟨_, _, hnode⟩ := hplace
      rw [h.holds.free] at hnode
      cases hnode
    have harchive : top ≠ up ++ [last] := by
      rintro rfl
      exact hplain hplace
    rw [hown', houtput]
    simp only [List.append_nil, hstaging, harchive, Bool.false_eq_true, or_false, false_or, true_and]
    rfl
  · have hstands := hstands.resolve_left hne
    have hproper : ∀ name ∈ names, ProperName name := by
      obtain ⟨node, hnode⟩ := Option.ne_none_iff_exists'.1 hstands
      intro n hn
      exact (h.sound_now hsound).proper _ _ hnode n (List.mem_append_right _ hn)
    have habsolute := isAbsolute_treePath spec cwd tree
    have hsame : ∀ {p : Path}, (Tree.below (spec.treePath cwd tree) names).sameComponents
        (p.absoluteFrom (pathOf cwd)) = true ↔
          (spec.treePath cwd tree).solidSteps ++ names.map .into =
            (p.absoluteFrom (pathOf cwd)).solidSteps := by
      intro p
      rw [Path.sameComponents_iff ((Path.below_spec _ hproper).2.trans habsolute)
        (Path.isAbsolute_absoluteFrom_pathOf _ _), Path.solidSteps_below _ hproper]
    simp only [hne, false_and, or_false]
    constructor
    · rintro (harchive | hstaged)
      · rw [houtput] at harchive
        exact .inr ((h.sound_now hsound).place_of_sameComponents hcwd (h.holds.names hnamed) habsolute
          htrail hne hstands harchive)
      · rw [hown] at hstaged
        exact .inl ((h.sound_now hsound).place_of_sameComponents hcwd' (h.holds.names h.holds.named)
          habsolute htrail hne hstands hstaged)
    · obtain ⟨rfl, front, hfront, hfront'⟩ := h.beside hsound hnamed
      rintro (hstaged | harchive)
      · obtain ⟨inner, rfl, hinner⟩ := h.inner_of_beside hsound hclear htree htop htrail hnamed hne hstaged
        rw [hfront] at hinner
        obtain ⟨rfl, _⟩ := List.append_inj' hinner rfl
        right
        rw [hown] at hfront' ⊢
        rw [hsame, hfront', List.map_append, List.map_singleton, List.append_assoc]
      · obtain ⟨inner, rfl, hinner⟩ :=
          h.inner_of_beside hsound hclear htree htop htrail hnamed hne harchive
        left
        rw [houtput]
        refine hsame.2 (Eq.trans ?_ hinner.symm)
        rw [List.map_append, List.map_singleton, List.append_assoc]

/-- Leaving out what is skipped leaves the walk through the tree as it stood before there was a staging
file, but for the archive. -/
theorem filter_ways {ways : List Location}
    (h : spec.Packed cwd before made now after staged parent name output own walks program block
      members blocks) (hsound : before.Sound) (hclear : spec.Clear cwd made)
    (htree : tree ∈ spec.trees) (htop : made.reach cwd (spec.root.join tree) = .ok top)
    (hplace : made.HoldsDirectory top)
    (htrail : Trail now links [] (spec.treePath cwd tree).solidSteps top)
    (hnamed : made.Names cwd spec.output up last)
    (hplain : ¬ made.HoldsDirectory (up ++ [last])) (hways : DepthFirst made top [] ways) :
    (([] :: (Tree.listing now top).map Prod.fst).filter fun names =>
        !([output, own].any (Tree.below (spec.treePath cwd tree) names).sameComponents)) =
      ways.filter fun names => !decide (spec.Omits cwd tree top (up ++ [last]) names) := by
  have hnow := Tree.depthFirst_listing (h.sound_now hsound) top
  refine Location.eq_of_before ((hnow.pairwise (h.sound_now hsound)).filter _)
    ((hways.pairwise (h.sound_made hsound)).filter _) fun names => ?_
  have hstands : ∀ {fs : FileSystem}, fs.entryAt? (top ++ names) ≠ none →
      fs.nodeAt? (top ++ names) ≠ none := by
    intro fs hentry
    obtain ⟨entry, hentry⟩ := Option.ne_none_iff_exists'.1 hentry
    obtain ⟨node, hnode, _⟩ := nodeAt?_of_entryAt? hentry
    simp [hnode]
  -- The staging file is all that is new, and it is left out.
  have hmem : (names = [] ∨ now.entryAt? (top ++ names) ≠ none) ∧ top ++ names ≠ parent ++ [name] ↔
      names = [] ∨ made.entryAt? (top ++ names) ≠ none := by
    by_cases hstaged : top ++ names = parent ++ [name]
    · have hfree : made.nodeAt? (top ++ names) = none := hstaged ▸ h.holds.free
      have hne : names ≠ [] := by
        rintro rfl
        obtain ⟨_, _, hnode⟩ := hplace
        rw [List.append_nil] at hfree
        rw [hfree] at hnode
        cases hnode
      have hnone : made.entryAt? (top ++ names) = none := by
        simp [entryAt?, hfree]
      simp [hstaged, hne, hstaged ▸ hnone]
    · rw [h.holds.entryAt?_of_ne hstaged]
      simp [hstaged]
  rw [List.mem_filter, List.mem_filter, hnow.mem_iff (h.sound_now hsound),
    hways.mem_iff (h.sound_made hsound)]
  simp only [List.nil_append, exists_eq_left', Bool.not_eq_true', ← Bool.not_eq_true,
    decide_eq_true_eq]
  rw [← hmem]
  constructor
  · rintro ⟨hthere, hstays⟩
    rw [h.skipped_iff hsound hclear htree htop hplace htrail hnamed hplain (hthere.imp_right hstands),
      not_or] at hstays
    exact ⟨⟨hthere, hstays.1⟩, hstays.2⟩
  · rintro ⟨⟨hthere, hstaged⟩, homits⟩
    refine ⟨hthere, ?_⟩
    rw [h.skipped_iff hsound hclear htree htop hplace htrail hnamed hplain (hthere.imp_right hstands),
      not_or]
    exact ⟨hstaged, homits⟩

end Packed

theorem exists_of_forall₂ {α β : Type} {R : α → β → Prop} {xs : List α} {ys : List β} {y : β}
    (h : List.Forall₂ R xs ys) (hy : y ∈ ys) : ∃ x ∈ xs, R x y := by
  induction h with
  | nil => cases hy
  | @cons x y' xs ys hxy _ ih =>
      rcases List.mem_cons.1 hy with rfl | hy
      · exact ⟨x, List.mem_cons_self, hxy⟩
      · obtain ⟨x', hx', hxy'⟩ := ih hy
        exact ⟨x', List.mem_cons_of_mem _ hx', hxy'⟩

/-- What was found on walks becomes members walk by walk. -/
theorem exists_parts_of_flatMap {α β γ : Type} {R : β → γ → Prop} {found : α → List β} {xs : List α}
    {ys : List γ} (h : List.Forall₂ R (xs.flatMap found) ys) :
    ∃ parts, ys = parts.flatten ∧ List.Forall₂ (fun x part => List.Forall₂ R (found x) part) xs parts := by
  induction xs generalizing ys with
  | nil =>
      cases h
      exact ⟨[], rfl, .nil⟩
  | cons x rest ih =>
      have hfirst := List.forall₂_take (found x).length h
      have hrest := List.forall₂_drop (found x).length h
      rw [List.flatMap_cons, List.take_left] at hfirst
      rw [List.flatMap_cons, List.drop_left] at hrest
      obtain ⟨parts, hparts, hall⟩ := ih hrest
      refine ⟨ys.take (found x).length :: parts, ?_, .cons hfirst hall⟩
      rw [List.flatten_cons, ← hparts, List.take_append_drop]

/-- A path is stored under a name as a member that has its blocks. -/
def Stores (cwd : Location) (now : FileSystem) (x : Path × Path) (m : Tar.Member) : Prop :=
  (FileOp.member x.1 x.2).result cwd now = (.ok m, now) ∧ ∃ block, m.encode = .ok block

/-- Each member is that of something found. -/
theorem Packs.forall₂ (h : Packs cwd now founds members blocks) :
    List.Forall₂ (Stores cwd now) (founds.map fun f => (f.path, f.name)) members := by
  rw [List.forall₂_map_left_iff]
  have hstored : List.Forall₂
      (fun found m => (FileOp.member found.path found.name).result cwd now = (.ok m, now))
      founds members := by
    rw [← List.forall₂_map_right_iff (f := fun m : Tar.Member =>
        ((.ok m, now) : Except IoError Tar.Member × FileSystem)), ← List.forall₂_map_left_iff
      (f := fun found : Found => (FileOp.member found.path found.name).result cwd now),
      List.forall₂_eq_eq_eq]
    exact h.stored
  have hencoded : ∀ m ∈ members, ∃ block, m.encode = .ok block := by
    intro m hm
    obtain ⟨block, _, hencode⟩ := h.exists_block hm
    exact ⟨block, hencode⟩
  have hflipped : List.Forall₂ (flip fun found m =>
      (FileOp.member found.path found.name).result cwd now = (.ok m, now)) members founds :=
    hstored.flip
  exact ((List.forall₂_and_left _ _).2 ⟨hencoded, hflipped⟩).flip.imp fun _ _ hboth => hboth.symm

/-- A member is listed as what its path leads to. -/
theorem listed_member {p q : Path} {m : Tar.Member} {fs fs' : FileSystem} {stored : Bytes}
    (hmember : (FileOp.member p q).result cwd fs = (.ok m, fs')) (hstored : m.listedName = stored) :
    ∃ entry, fs.stat cwd p = .ok entry ∧ entry.listed? stored = some m.listed := by
  obtain ⟨entry, hstat, ⟨content, mode, rfl, rfl⟩ | ⟨mode, rfl, rfl⟩⟩ := FileOp.member_cases hmember
  · refine ⟨_, hstat, ?_⟩
    unfold Tar.Member.listed
    rw [hstored]
    simp [Entry.listed?, Tar.Member.mode, Entry.isExecutable, Entry.isFile]
  · refine ⟨_, hstat, ?_⟩
    unfold Tar.Member.listed
    rw [hstored]
    simp [Entry.listed?, Tar.Member.mode]

/-- A tree that is there is given by names that entries can have. -/
theorem properName_of_tree {root : Path} {fs : FileSystem} (hsound : fs.Sound)
    (htop : fs.reach cwd (root.join tree) = .ok top) (hplace : fs.HoldsDirectory top) :
    ∀ name, .into name ∈ tree.bareSteps → ProperName name := by
  intro name hname
  obtain ⟨_, links, _, htrail⟩ := reach_eq_ok_iff.1 htop
  obtain ⟨_, _, hnode⟩ := hplace
  refine htrail.proper hsound.proper (by simp [hnode]) name ?_
  rw [Path.steps_eq, Path.bareSteps_join]
  exact List.mem_append_left _ (List.mem_append_right _ hname)

namespace Packed

/-- **The members of a tree** are its list. -/
theorem listsTree {part : List Tar.Member}
    (h : spec.Packed cwd before made now after staged parent name output own walks program block
      members blocks) (hsound : before.Sound) (hclear : spec.Clear cwd made)
    (htree : tree ∈ spec.trees) (hnamed : made.Names cwd spec.output up last)
    (hplain : ¬ made.HoldsDirectory (up ++ [last]))
    (hwalked : spec.Walked cwd now [output, own] tree founds)
    (hpart : List.Forall₂ (Stores cwd now) (founds.map fun f => (f.path, f.name)) part) :
    spec.ListsTree cwd made now (up ++ [last]) (parent ++ [name]) tree (part.map Tar.Member.listed) := by
  obtain ⟨top, htop, hplace⟩ := h.exists_top htree
  obtain ⟨⟨links, htrail⟩, hfounds⟩ := h.trail_walked_top hsound htop hplace hwalked
  have hways := Tree.depthFirst_listing (h.sound_made hsound) top
  refine ⟨top, _, htop, hways, ?_⟩
  rw [← h.filter_ways hsound hclear htree htop hplace htrail hnamed hplain hways]
  rw [hfounds, List.forall₂_map_left_iff] at hpart
  have hnames : ∀ names ∈ ([] :: (Tree.listing now top).map Prod.fst).filter (fun names =>
      !([output, own].any (Tree.below (spec.treePath cwd tree) names).sameComponents)),
      ∀ n ∈ names, ProperName n := by
    intro names hmem n hn
    have hthere := ((Tree.depthFirst_listing (h.sound_now hsound) top).mem_iff
      (h.sound_now hsound)).1 (List.mem_filter.1 hmem).1
    obtain ⟨_, rfl, rfl | hentry⟩ := hthere
    · cases hn
    · obtain ⟨entry, hentry⟩ := Option.ne_none_iff_exists'.1 hentry
      obtain ⟨node, hnode, _⟩ := nodeAt?_of_entryAt? hentry
      exact (h.sound_now hsound).proper _ _ hnode n (List.mem_append_right _ hn)
  rw [List.forall₂_map_right_iff]
  refine ((List.forall₂_and_left _ _).2 ⟨hnames, hpart⟩).imp ?_
  rintro names m ⟨hproper, hmember, block, hencode⟩
  obtain ⟨entry, hstat, hlisted⟩ := listed_member hmember
    (Tar.Member.listedName_of_encode hencode (FileOp.member_eq_ok hmember).1 hproper
      (properName_of_tree (h.sound_made hsound) htop hplace))
  exact ⟨entry, h.holds.stat_before hstat, hlisted⟩

/-- The members come tree by tree from the walks. -/
theorem exists_parts
    (h : spec.Packed cwd before made now after staged parent name output own walks program block
      members blocks) :
    ∃ parts, members = parts.flatten ∧ List.Forall₂
      (fun tree part => ∃ founds, spec.Walked cwd now [output, own] tree founds ∧
        List.Forall₂ (Stores cwd now) (founds.map fun f => (f.path, f.name)) part)
      spec.trees parts := by
  have hpacks := h.packs.forall₂
  rw [List.map_flatMap] at hpacks
  obtain ⟨parts, rfl, hparts⟩ := exists_parts_of_flatMap hpacks
  refine ⟨parts, rfl, ?_⟩
  rw [← h.trees, List.forall₂_map_left_iff]
  refine ((List.forall₂_and_left _ _).2 ⟨h.walked, hparts⟩).imp ?_
  rintro w part ⟨hwalked, hpart⟩
  exact ⟨w.2, hwalked, hpart⟩

/-- **The members of all trees** are their lists. -/
theorem listsTrees
    (h : spec.Packed cwd before made now after staged parent name output own walks program block
      members blocks) (hsound : before.Sound) (hclear : spec.Clear cwd made)
    (hnamed : made.Names cwd spec.output up last) (hplain : ¬ made.HoldsDirectory (up ++ [last])) :
    ∃ parts, members.map Tar.Member.listed = parts.flatten ∧
      List.Forall₂ (spec.ListsTree cwd made now (up ++ [last]) (parent ++ [name])) spec.trees parts := by
  obtain ⟨parts, rfl, hparts⟩ := h.exists_parts
  refine ⟨parts.map fun part => part.map Tar.Member.listed, List.map_flatten, ?_⟩
  rw [List.forall₂_map_right_iff]
  refine ((List.forall₂_and_left _ _).2 ⟨fun tree htree => htree, hparts⟩).imp ?_
  rintro tree part ⟨htree, founds, hwalked, hpart⟩
  exact h.listsTree hsound hclear htree hnamed hplain hwalked hpart

/-- The binary comes first, with what it held when packing began. -/
theorem lists_program
    (h : spec.Packed cwd before made now after staged parent name output own walks program block
      members blocks) :
    ∃ content mode, before.stat cwd spec.executable = .ok (.file content mode) ∧
      (Entry.file content mode).listed? (Text.Utf8.encode Layout.toolchainName) =
        some program.listed := by
  have hinputs := h.inputs
  unfold missingInput? at hinputs
  split at hinputs
  · rename_i hfile
    obtain ⟨content, mode, hstat⟩ := isFile_iff.1 hfile
    have hkept := h.holds.kept.stat (h.furnished.kept.stat hstat)
    have hstored : program.listedName = Text.Utf8.encode Layout.toolchainName := by
      unfold Tar.Member.listedName
      rw [h.programName]
      decide
    obtain ⟨entry, hentry, hlisted⟩ := listed_member h.programMember hstored
    cases hentry.symm.trans hkept
    exact ⟨content, mode, hstat, hlisted⟩
  · cases hinputs

end Packed

/-- At the path of the archive is a packed tape, on which a reader finds the list. -/
def ReadsAs (spec : ArchiveSpec) (cwd : Location) (after : FileSystem) (listed : List Tar.Listed) :
    Prop :=
  ∃ packed tape, after.read cwd spec.output = .ok packed ∧ Gzip.unwrap? packed = some tape ∧
    Tar.read? tape = some listed

/-- A reader finds on a finished archive what was packed. -/
theorem Packed.readsAs {report : ArchiveReport}
    (h : spec.Packed cwd before made now after staged parent name output own walks program block
      members blocks)
    (hsize : report.bytes = (Gzip.wrap ((block :: blocks).flatten ++ Tar.trailer)).length)
    (hbytes : report.bytes < 2 ^ 64) :
    spec.ReadsAs cwd after (program.listed :: members.map Tar.Member.listed) := by
  obtain ⟨hunwrap, hread⟩ := h.read_back
    (Nat.lt_of_lt_of_le (hsize ▸ hbytes) (show 2 ^ 64 ≤ 256 ^ 11 by decide))
  exact ⟨_, _, h.readable, hunwrap, hread⟩

/-- **What an archive lists**: the binary, under its fixed name, and then tree by tree what stands in it
but for the archive and its staging file. -/
structure Lists (spec : ArchiveSpec) (cwd : Location) (before after : FileSystem)
    (program : Tar.Listed) (parts : List (List Tar.Listed)) : Prop where
  read : spec.ReadsAs cwd after (program :: parts.flatten)
  program : ∃ content mode, before.stat cwd spec.executable = .ok (.file content mode) ∧
    (Entry.file content mode).listed? (Text.Utf8.encode Layout.toolchainName) = some program
  trees : ∃ now, ∃ staged : Staged, ∃ up last name,
    (Staged.ground spec.output cwd before).Names cwd spec.output up last ∧
      staged.Holds (Staged.ground spec.output cwd before) now cwd up name Gzip.header stagingMode ∧
      List.Forall₂ (spec.ListsTree cwd (Staged.ground spec.output cwd before) now (up ++ [last])
        (up ++ [name])) spec.trees parts

/-- **The list of a finished archive** is complete and exact. -/
theorem make_lists {σ : Type} {s s' : Session σ} {report : ArchiveReport}
    (h : spec.make.run cwd s = (.ok report, s')) (hbytes : report.bytes < 2 ^ 64)
    (hsound : s.files.Sound) (hclear : spec.Clear cwd (Staged.ground spec.output cwd s.files)) :
    ∃ program parts, spec.Lists cwd s.files s'.files program parts := by
  obtain ⟨_, made, now, staged, parent, name, output, own, walks, program, block, members, blocks,
    hpacked, _, hsize⟩ := make_eq_ok_report h
  rw [← hpacked.ground] at hclear
  obtain ⟨up, last, hplaced⟩ := hpacked.placed
  obtain ⟨rfl, _⟩ := hpacked.beside hsound hplaced.named
  obtain ⟨parts, hparts, hlists⟩ := hpacked.listsTrees hsound hclear hplaced.named hplaced.plain
  have hread := hpacked.readsAs hsize hbytes
  rw [hparts] at hread
  refine ⟨program.listed, parts, hread, hpacked.lists_program, ?_⟩
  rw [← hpacked.ground]
  exact ⟨now, staged, parent, last, name, hplaced.named, hpacked.holds, hlists⟩

/-! ### Sample archives -/

section

variable {file : String} {archive : Path}

/-- A tree with one file in it, and a binary beside it. -/
def sampleTree (file : String) : FileSystem where
  nodes := [(["t"], .directory 0o755 0), (["t", file], .file 1), (["o"], .file 0)]
  files := [(0, ⟨[], 0o755, 0⟩), (1, ⟨[1], 0o644, 0⟩)]
  now := 0

/-- The tree, given by a path with a step that stays in place, goes into an archive. -/
def sampleSpec (archive : Path) : ArchiveSpec := ⟨⟨"/o"⟩, ⟨"/"⟩, [⟨"./t"⟩], archive⟩

/-- Packing the sample.  Only the kernel evaluates it. -/
@[irreducible] def samplePacking (file : String) (archive : Path) :
    Except PackageError ArchiveReport × Session Unit :=
  (sampleSpec archive).make.run [] (Session.start (sampleTree file) ())

/-- The sample when it is packed. -/
def sampleGround (file : String) (archive : Path) : FileSystem :=
  Staged.ground archive [] (sampleTree file)

/-- The sample can be packed into an archive in the directory `up`.  It is evaluated. -/
def Samples (file : String) (archive : Path) (up : Location) (last : String) : Prop :=
  (∀ x ∈ (sampleTree file).nodes, ∀ name ∈ x.1, ProperName name) ∧
    ((sampleTree file).nodes.map Prod.fst).Nodup ∧
    (∀ x ∈ (sampleTree file).nodes,
      ((sampleTree file).nodeAt? x.1.dropLast).map Node.isDirectory = some true) ∧
    (samplePacking file archive).1.toOption.any (·.bytes < 2 ^ 64) = true ∧
    ((sampleGround file archive).reach [] ((⟨"/"⟩ : Path).join ⟨"./t"⟩)).toOption = some ["t"] ∧
    ((sampleGround file archive).reachParent [] archive).toOption = some ⟨up, .name last, false⟩ ∧
    (sampleGround file archive).nodeAt? ["t"] = some (.directory 0o755 0)

instance (up : Location) (last : String) : Decidable (Samples file archive up last) :=
  inferInstanceAs (Decidable (_ ∧ _ ∧ _ ∧ _ ∧ _ ∧ _ ∧ _))

variable {last : String}

theorem Samples.sound (h : Samples file archive up last) : (sampleTree file).Sound :=
  sound_of_nodes h.1 h.2.1 h.2.2.1

theorem Samples.run (h : Samples file archive up last) : ∃ report, report.bytes < 2 ^ 64 ∧
    (sampleSpec archive).make.run [] (Session.start (sampleTree file) ()) =
      (.ok report, (samplePacking file archive).2) := by
  obtain ⟨report, hreport, hbytes⟩ := (Option.any_eq_true _ _).1 h.2.2.2.1
  refine ⟨report, of_decide_eq_true hbytes, ?_⟩
  rw [← eq_mk_of_fst (eq_ok_of_toOption hreport)]
  unfold samplePacking
  rfl

theorem Samples.reach (h : Samples file archive up last) :
    (sampleGround file archive).reach [] ((⟨"/"⟩ : Path).join ⟨"./t"⟩) = .ok ["t"] :=
  eq_ok_of_toOption h.2.2.2.2.1

theorem Samples.named (h : Samples file archive up last) :
    (sampleGround file archive).Names [] archive up last :=
  eq_ok_of_toOption h.2.2.2.2.2.1

/-- An archive in the sample tree is where a walk knows it. -/
theorem Samples.clear (h : Samples file ⟨"/t/a"⟩ ["t"] "a") :
    (sampleSpec ⟨"/t/a"⟩).Clear [] (sampleGround file ⟨"/t/a"⟩) := by
  intro tree htree top up last htop houtput _
  obtain rfl := List.mem_singleton.1 htree
  obtain ⟨rfl, rfl⟩ := h.named.unique houtput
  obtain rfl := Except.ok.inj (h.reach.symm.trans htop)
  refine ⟨["a"], by simp, by decide +kernel, ?_⟩
  intro front hfront hne target
  rcases List.prefix_cons_iff.1 hfront with rfl | ⟨more, rfl, hmore⟩
  · rw [List.append_nil, h.2.2.2.2.2.2]
    simp
  · rw [List.prefix_nil] at hmore
    exact (hne (by rw [hmore])).elim

end

/-- The sample archive lists what it should. -/
theorem samplePacking_lists :
    ∃ report program parts,
      (sampleSpec ⟨"/t/a"⟩).make.run [] (Session.start (sampleTree "b") ()) =
        (.ok report, (samplePacking "b" ⟨"/t/a"⟩).2) ∧
      (sampleSpec ⟨"/t/a"⟩).Lists [] (sampleTree "b") (samplePacking "b" ⟨"/t/a"⟩).2.files program
        parts := by
  have hsample : Samples "b" ⟨"/t/a"⟩ ["t"] "a" := by decide +kernel
  obtain ⟨report, hbytes, hrun⟩ := hsample.run
  obtain ⟨program, parts, hlists⟩ := make_lists hrun hbytes hsample.sound hsample.clear
  exact ⟨report, program, parts, hrun, hlists⟩

theorem name_of_listed? {entry : Entry} {stored : Bytes} {l : Tar.Listed}
    (h : entry.listed? stored = some l) : l.name = stored := by
  cases entry <;> cases h <;> rfl

/-- What is listed of a tree has the stored name of something in it. -/
theorem ListsTree.exists_name {out staging : Location} {part : List Tar.Listed} {l : Tar.Listed}
    (h : spec.ListsTree cwd made now out staging tree part) (hsound : made.Sound) (hl : l ∈ part) :
    ∃ names, (∀ name ∈ names, ProperName name) ∧ l.name = Tree.storedName tree names := by
  obtain ⟨top, ways, _, hways, hpart⟩ := h
  obtain ⟨names, hmem, entry, _, hlisted⟩ := exists_of_forall₂ hpart hl
  refine ⟨names, ?_, name_of_listed? hlisted⟩
  obtain ⟨_, rfl, hentry⟩ := (hways.mem_iff hsound).1 (List.mem_filter.1 hmem).1
  intro name hname
  obtain ⟨entry, hentry⟩ := Option.ne_none_iff_exists'.1
    (hentry.resolve_left (List.ne_nil_of_mem hname))
  obtain ⟨node, hnode, _⟩ := nodeAt?_of_entryAt? hentry
  exact hsound.proper _ _ hnode name (List.mem_append_right _ hname)

/-- A name that does not fit a header behind that of its tree: 25 characters of four bytes. -/
def longName : String := String.ofList (List.replicate 25 '𝄞')

/-- Nothing is stored under the tidy form of a name that does not fit. -/
theorem storedName_ne_tidyName {names : Location} (hnames : ∀ name ∈ names, ProperName name) :
    Tree.storedName ⟨"./t"⟩ names ≠ Tree.tidyName ⟨"./t"⟩ [longName] := by
  have hlong : ¬ (Tree.tidyName ⟨"./t"⟩ [longName]).length ≤ Tar.nameSize := by decide +kernel
  have hfirst : (Tree.tidyName ⟨"./t"⟩ [longName]).head? = some 116 := by decide +kernel
  unfold Tree.storedName
  split
  · rename_i hfits
    intro heq
    rw [heq] at hfits
    exact hlong hfits.1
  · intro heq
    have htext : (Tree.nameIn ⟨"./t"⟩ names).text.toList =
        '.' :: '/' :: 't' :: '/' :: (String.intercalate "/" names).toList := by
      have hlead : (⟨"./t"⟩ : Path).lead = ['.', '/', 't', '/'] := by decide
      have hchars : (Tree.nameIn ⟨"./t"⟩ names).chars = _ := Path.chars_join _ _
      rw [Path.isAbsolute_intercalate hnames, if_neg (by decide), hlead] at hchars
      exact hchars
    have hdot : String.utf8EncodeChar '.' = [46] := by decide
    rw [← heq, Text.Utf8.encode, htext, List.flatMap_cons, hdot] at hfirst
    cases hfirst

/-- **Names that do not fit are not made tidy.**  The sample has a file in its tree, and no entry of its
archive has the tidy form of the file's name. -/
theorem longName_not_tidy :
    Samples longName ⟨"/t/a"⟩ ["t"] "a" ∧
      (sampleTree longName).entryAt? (["t"] ++ [longName]) = some (.file [1] 0o644) ∧
      ∃ listed, (sampleSpec ⟨"/t/a"⟩).ReadsAs [] (samplePacking longName ⟨"/t/a"⟩).2.files listed ∧
        ∀ l ∈ listed, l.name ≠ Tree.tidyName ⟨"./t"⟩ [longName] := by
  have hsample : Samples longName ⟨"/t/a"⟩ ["t"] "a" := by decide +kernel
  obtain ⟨report, hbytes, hrun⟩ := hsample.run
  obtain ⟨_, made, now, staged, parent, name, output, own, walks, program, block, members, blocks,
    hpacked, _, hsize⟩ := make_eq_ok_report hrun
  have hclear := hsample.clear
  have hground : made = sampleGround longName ⟨"/t/a"⟩ := hpacked.ground
  rw [← hground] at hclear
  obtain ⟨up, last, hplaced⟩ := hpacked.placed
  obtain ⟨parts, hparts, hlists⟩ :=
    hpacked.listsTrees hsample.sound hclear hplaced.named hplaced.plain
  refine ⟨hsample, by decide +kernel, _, hpacked.readsAs hsize hbytes, ?_⟩
  intro l hl
  rw [hparts] at hl
  rcases List.mem_cons.1 hl with rfl | hl
  · obtain ⟨_, _, _, hlisted⟩ := hpacked.lists_program
    rw [name_of_listed? hlisted]
    decide +kernel
  · obtain ⟨part, hpart, hl⟩ := List.mem_flatten.1 hl
    obtain ⟨tree, htree, hlist⟩ := exists_of_forall₂ hlists hpart
    obtain rfl := List.mem_singleton.1 htree
    obtain ⟨names, hnames, hname⟩ := hlist.exists_name (hpacked.sound_made hsample.sound) hl
    rw [hname]
    exact storedName_ne_tidyName hnames

end ArchiveSpec

end Bootstrap
