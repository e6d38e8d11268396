import Bootstrap.Proofs.Archive.Walk

/-!
# What is left out of an archive

The archive and its staging file are known on a walk by their paths.  That is enough as long
as the path of the archive goes on from that of every tree it lies in, by names and past no
link: then what is left out is what stands where the archive or the staging file does.

* `Path.sameComponents_iff` — absolute paths are told apart by their solid steps;
* `Sound.place_of_spelled` — a path that goes on from that of a tree names an entry of it;
* `Staged.parent_eq` — the staging file stands beside what the archive will be.
-/

namespace Bootstrap

open FileSystem

namespace Path

variable {p q : Path} {name : String}

/-- Components take different steps. -/
theorem flatMap_steps_inj {cs ds : List Component} (hcs : ∀ c ∈ cs, c.IsInner)
    (hds : ∀ d ∈ ds, d.IsInner)
    (h : cs.flatMap Component.steps = ds.flatMap Component.steps) : cs = ds := by
  have hstep : ∀ {c : Component}, c.IsInner →
      (c = .parent ∧ c.steps = [.up]) ∨
        ∃ text, c = .name text ∧ c.steps = [.into (String.ofList text)] := by
    intro c hc
    cases c with
    | root => exact (hc.noSlash (by decide)).elim
    | current => exact (hc.solid rfl).elim
    | parent => exact .inl ⟨rfl, rfl⟩
    | name text => exact .inr ⟨text, rfl, rfl⟩
  induction cs generalizing ds with
  | nil =>
      cases ds with
      | nil => rfl
      | cons d ds =>
          obtain ⟨_, hsteps⟩ | ⟨_, _, hsteps⟩ := hstep (hds d List.mem_cons_self) <;>
            simp [hsteps] at h
  | cons c cs ih =>
      cases ds with
      | nil =>
          obtain ⟨_, hsteps⟩ | ⟨_, _, hsteps⟩ := hstep (hcs c List.mem_cons_self) <;>
            simp [hsteps] at h
      | cons d ds =>
          have hrest : cs.flatMap Component.steps = ds.flatMap Component.steps → cs = ds :=
            ih (fun x hx => hcs x (List.mem_cons_of_mem _ hx))
              fun x hx => hds x (List.mem_cons_of_mem _ hx)
          rw [List.flatMap_cons, List.flatMap_cons] at h
          obtain ⟨rfl, hc⟩ | ⟨text, rfl, hc⟩ := hstep (hcs c List.mem_cons_self) <;>
            obtain ⟨rfl, hd⟩ | ⟨text', rfl, hd⟩ := hstep (hds d List.mem_cons_self) <;>
              simp only [hc, hd, List.cons_append, List.nil_append, List.cons.injEq, reduceCtorEq,
                false_and, PathStep.into.injEq, String.ofList_inj, true_and] at h
          · rw [hrest h]
          · rw [h.1, hrest h.2]

/-- **Absolute paths are told apart by their solid steps.** -/
theorem sameComponents_iff (hp : p.isAbsolute = true) (hq : q.isAbsolute = true) :
    p.sameComponents q = true ↔ p.solidSteps = q.solidSteps := by
  have hcomponents : ∀ {p : Path}, p.isAbsolute = true → p.components = .root :: p.inner := by
    intro p hp
    unfold components
    rw [if_pos hp]
    rfl
  unfold sameComponents
  rw [beq_iff_eq, hcomponents hp, hcomponents hq, List.cons.injEq]
  rw [← flatMap_steps_inner, ← flatMap_steps_inner]
  constructor
  · rintro ⟨_, h⟩
    rw [h]
  · intro h
    exact ⟨rfl, flatMap_steps_inj (fun _ => isInner_of_mem_inner) (fun _ => isInner_of_mem_inner) h⟩

/-- A path made absolute is absolute. -/
theorem isAbsolute_absoluteFrom_pathOf (p : Path) (cwd : Location) :
    (p.absoluteFrom (pathOf cwd)).isAbsolute = true := by
  rw [(absoluteFrom_steps p _).2.1, isAbsolute_pathOf, Bool.or_true]

theorem solidSteps_below (base : Path) {names : Location}
    (hnames : ∀ name ∈ names, ProperName name) :
    (Tree.below base names).solidSteps = base.solidSteps ++ names.map .into := by
  unfold solidSteps
  rw [(below_spec base hnames).1, List.filter_append]
  congr 1
  rw [List.filter_eq_self]
  simp

theorem Ends.solidSteps {first : List PathStep} (h : p.Ends first name) :
    p.solidSteps = first.filter (· ≠ .stay) ++ [.into name] := by
  unfold Path.solidSteps
  rw [h.bare, List.filter_append]
  rfl

end Path

namespace FileSystem

variable {fs : FileSystem} {cwd top up : Location} {p : Path} {last : String} {names : Location}
variable {links : Nat} {steps : List PathStep}

/-- The solid steps of a path that names an entry. -/
theorem Names.solid (h : fs.Names cwd p up last) :
    ∃ first links, p.solidSteps = first ++ [.into last] ∧
      Trail fs links (origin cwd p) first up := by
  obtain ⟨_, _, first, hends, links, _, htrail⟩ := names_iff.1 h
  have hway : Trail fs links (origin cwd p) ([] ++ first) up := htrail
  obtain ⟨links', _, hshed⟩ := hway.shed
  exact ⟨first.filter (· ≠ .stay), links', hends.solidSteps, hshed⟩

/-- **A path that goes on from that of a tree** by names, past no link, names an entry of the tree. -/
theorem Sound.place_of_spelled (hsound : fs.Sound)
    (hcwd : p.isAbsolute = true ∨ fs.HoldsDirectory cwd) (hnamed : fs.Names cwd p up last)
    (htop : Trail fs links [] steps top)
    (hsteps : (p.absoluteFrom (pathOf cwd)).solidSteps = steps ++ names.map .into) (hne : names ≠ [])
    (hplain : ∀ front, front <+: names → front ≠ names →
      ∀ target, fs.nodeAt? (top ++ front) ≠ some (.link target)) :
    up ++ [last] = top ++ names := by
  obtain ⟨front, final, rfl⟩ := (List.eq_nil_or_concat names).resolve_left hne
  rw [List.concat_eq_append] at hsteps hplain ⊢
  have hstrict : ∀ inner, inner <+: front → ∀ target,
      fs.nodeAt? (top ++ inner) ≠ some (.link target) := by
    intro inner hinner
    refine hplain inner (hinner.trans (List.prefix_append _ _)) ?_
    rintro rfl
    have hlength := hinner.length_le
    simp only [List.length_append, List.length_singleton] at hlength
    omega
  obtain ⟨first, count, hsolid, hway⟩ := hnamed.solid
  rw [Path.solidSteps_absoluteFrom, hsolid, List.map_append, List.map_singleton,
    ← List.append_assoc, ← List.append_assoc] at hsteps
  obtain ⟨hfirst, hlast⟩ := List.append_inj' hsteps rfl
  obtain rfl : last = final := by simpa using hlast
  rw [← List.append_assoc]
  congr 1
  cases habsolute : p.isAbsolute with
  | true =>
      rw [habsolute, if_pos rfl, List.nil_append] at hfirst
      rw [origin, habsolute, if_pos rfl, hfirst] at hway
      obtain ⟨_, hdown⟩ := hway.remainder htop
      exact hdown.down_names fun inner hinner _ => hstrict inner hinner
  | false =>
      have hhere := hcwd.resolve_left (by simp [habsolute])
      obtain ⟨_, _, hnode⟩ := id hhere
      have hdirectory : ∀ inner, inner <+: cwd → inner ≠ [] →
          ∀ target, fs.nodeAt? ([] ++ inner) ≠ some (.link target) :=
        fun inner hinner _ => (hsound.holdsDirectory_of_prefix hhere hinner).ne_link
      rw [habsolute, if_neg (by decide), Path.solidSteps_pathOf (hsound.proper _ _ hnode)] at hfirst
      rw [origin, habsolute, if_neg (by decide)] at hway
      rcases List.append_eq_append_iff.1 hfirst with ⟨more, hmore, hrest⟩ | ⟨more, hmore, hrest⟩
      · -- The tree lies below the current directory.
        rw [hmore] at htop
        obtain ⟨_, hhome⟩ := htop.down hdirectory
        rw [List.nil_append] at hhome
        rw [hrest] at hway
        obtain ⟨_, hdown⟩ := hway.remainder hhome
        exact hdown.down_names fun inner hinner _ => hstrict inner hinner
      · -- The current directory lies in the tree.
        obtain ⟨above, below, rfl, rfl, rfl⟩ := List.map_eq_append_iff.1 hmore
        obtain ⟨below', inner, rfl, hbelow, rfl⟩ := List.map_eq_append_iff.1 hrest
        obtain rfl : below' = below :=
          (List.map_inj_right fun _ _ => PathStep.into.inj).1 hbelow
        obtain rfl := htop.down_names fun outer houter =>
          hdirectory outer (houter.trans (List.prefix_append _ _))
        rw [← List.append_assoc]
        refine hway.down_names fun outer houter _ target => ?_
        rw [List.append_assoc]
        exact hstrict (below' ++ outer) ((List.prefix_append_right_inj _).2 houter) target

end FileSystem

namespace Staged

variable {fs fs' made now : FileSystem} {cwd parent up : Location} {destination d base : Path}
variable {name last : String} {s : Staged}

/-- The path of a directory that means the same from everywhere goes the same way. -/
theorem solidSteps_fromRoot (h : (fromRoot d).result cwd fs = (.ok base, fs')) :
    base.isAbsolute = true ∧
      base.solidSteps = (if d.isAbsolute then [] else (pathOf cwd).solidSteps) ++ d.solidSteps := by
  obtain ⟨_, ⟨habsolute, rfl⟩ | ⟨hrelative, rfl⟩⟩ := fromRoot_eq_ok h
  · exact ⟨habsolute, by rw [if_pos habsolute, List.nil_append]⟩
  · refine ⟨by rw [Path.isAbsolute_join, Path.isAbsolute_pathOf, Bool.true_or], ?_⟩
    unfold Path.solidSteps
    rw [Path.bareSteps_join, hrelative, if_neg (by decide), if_neg (by decide), List.filter_append]

/-- A staging file is where its destination is, but for the name. -/
theorem solidSteps_create {first : List PathStep}
    (h : (create destination).result cwd fs = (.ok s, now)) (hends : destination.Ends first last) :
    s.path.isAbsolute = true ∧ ∃ k, s.path.solidSteps =
      (if destination.isAbsolute then [] else (pathOf cwd).solidSteps) ++
        first.filter (· ≠ .stay) ++ [.into (stagingName k)] := by
  obtain ⟨_, _, base, k, hbase, hpath⟩ := create_path h
  obtain ⟨habsolute, hsteps⟩ := solidSteps_fromRoot hbase
  obtain ⟨hpushed, hpushed'⟩ := Path.push_ends base (properName_stagingName k)
  have hdirectory : (directoryOf destination).isAbsolute = destination.isAbsolute ∧
      (directoryOf destination).solidSteps = first.filter (· ≠ .stay) := by
    have hstays : ∀ count, (List.replicate count PathStep.stay).filter (· ≠ .stay) = [] := by
      intro count
      rw [List.filter_eq_nil_iff]
      intro step hstep
      simp [(List.mem_replicate.1 hstep).2]
    rcases directoryOf_cases hends.bare with
      ⟨rfl, habsolute, hd⟩ | ⟨habsolute, hd, count, rfl⟩ | ⟨habsolute, _, count, rfl⟩
    · rw [hd, habsolute]
      decide
    · rw [hd, habsolute, hstays]
      decide
    · refine ⟨habsolute, ?_⟩
      rw [Path.steps_eq, List.filter_append, List.filter_append, hstays, List.append_nil]
      split <;> simp [Path.solidSteps]
  rw [hpath]
  refine ⟨hpushed'.trans habsolute, k, ?_⟩
  rw [hpushed.solidSteps, ← Path.solidSteps, hsteps, hdirectory.1, hdirectory.2]

/-- **A staging file stands beside its destination.** -/
theorem parent_eq (hsound : now.Sound)
    (hcwd : destination.isAbsolute = true ∨ now.HoldsDirectory cwd)
    (hcreate : (create destination).result cwd fs = (.ok s, made))
    (hnamed : now.Names cwd s.path parent name) (hdestination : now.Names cwd destination up last) :
    parent = up ∧ s.path.isAbsolute = true ∧ ∃ front : List PathStep,
      (destination.absoluteFrom (pathOf cwd)).solidSteps = front ++ [.into last] ∧
        s.path.solidSteps = front ++ [.into name] := by
  obtain ⟨_, _, first, hends, links, _, htrail⟩ := names_iff.1 hdestination
  obtain ⟨habsolute, k, hsolid⟩ := solidSteps_create hcreate hends
  obtain ⟨front, _, hfront, hway⟩ := hnamed.solid
  rw [hsolid] at hfront
  obtain ⟨rfl, hname⟩ := List.append_inj' hfront rfl
  obtain rfl : stagingName k = name := by simpa using hname
  rw [origin, habsolute, if_pos rfl] at hway
  have hshed : Trail now links (origin cwd destination) ([] ++ first) up := htrail
  obtain ⟨_, _, hshed⟩ := hshed.shed
  obtain ⟨_, hhome⟩ := hsound.trail_home hcwd hway
  refine ⟨hhome.unique hshed, habsolute, _, ?_, hsolid⟩
  rw [Path.solidSteps_absoluteFrom, hends.solidSteps, List.append_assoc]

end Staged

end Bootstrap
