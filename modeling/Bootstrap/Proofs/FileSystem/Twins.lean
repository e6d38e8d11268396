import Bootstrap.Proofs.FileSystem.Staging

/-!
# Trees that differ in leftovers

Two trees are twins if they show the same everywhere but at some hidden places, and hold
nothing but regular files there, each for itself.  A walk cannot pass a regular file, so it
comes to the same place in both, or it fails in both.  The faults may differ then: a walk
that is to go on behind a hidden place finds no directory in one tree and nothing in the
other.  Where no place is hidden the faults agree too.

* `Twins` — trees that differ in leftovers;
* `Twins.reach_agree`, `Twins.reachParent_agree` — where paths lead;
* `Twins.names` — a path names the same entry in both;
* `Twins.stat_agree`, `Twins.writable_eq` — what one sees there, and what one may do;
* `Twins.update` — the same change at one place leaves twins, and nothing is hidden at
  that place any more.
-/

namespace Bootstrap

/-! ### Computations that agree -/

section

variable {ε α β : Type} {excused : Prop} {x y : Except ε α}

/-- Two computations come to the same, or both fail in a case that is excused. -/
def Agree (excused : Prop) (x y : Except ε α) : Prop :=
  x = y ∨ excused ∧ (∃ e, x = .error e) ∧ ∃ e, y = .error e

theorem Agree.refl (x : Except ε α) : Agree excused x x := .inl rfl

theorem Agree.of_errors {e e' : ε} (h : excused) : Agree excused (.error e : Except ε α) (.error e') :=
  .inr ⟨h, ⟨e, rfl⟩, e', rfl⟩

/-- What the first computation gives the second one gives. -/
theorem Agree.eq_ok {a : α} (h : Agree excused x y) (hx : x = .ok a) : y = .ok a := by
  cases h with
  | inl heq => rw [← heq, hx]
  | inr hfails =>
      obtain ⟨e, herror⟩ := hfails.2.1
      rw [hx] at herror
      cases herror

/-- Nothing excuses a difference where nothing is excused. -/
theorem Agree.eq (h : Agree excused x y) (hnot : ¬ excused) : x = y := by
  cases h with
  | inl heq => exact heq
  | inr hfails => exact (hnot hfails.1).elim

theorem Agree.bind {f g : α → Except ε β} (h : Agree excused x y)
    (hnext : ∀ a, Agree excused (f a) (g a)) : Agree excused (x >>= f) (y >>= g) := by
  cases h with
  | inl heq =>
      rw [heq]
      cases y with
      | error e => exact .refl _
      | ok a => exact hnext a
  | inr hfails =>
      obtain ⟨hexcused, ⟨e, hx⟩, e', hy⟩ := hfails
      rw [hx, hy]
      exact .of_errors hexcused

end

/-- Whether a walk comes to its end at the node: it is neither a directory nor a link. -/
def Node.isLeaf : Node → Bool
  | .file _ | .device _ | .pipe _ => true
  | _ => false

namespace FileSystem

variable {fs fs' gs gs' : FileSystem} {cwd here place parent : Location} {p : Path} {name : String}
variable {hidden hidden' : Location → Prop} {steps rest : List PathStep} {budget : Nat}

/-! ### What stands at a place -/

/-- What is to be seen at a place: nothing, or something and what it shows. -/
def viewAt? (fs : FileSystem) (place : Location) : Option (Option Entry) :=
  (fs.nodeAt? place).map fs.shown

theorem viewAt?_eq_none_iff : fs.viewAt? place = none ↔ fs.nodeAt? place = none := by
  unfold viewAt?
  exact Option.map_eq_none_iff

/-- The same node and the same file give the same view. -/
theorem viewAt?_congr (hnode : fs'.nodeAt? place = fs.nodeAt? place)
    (hfile : ∀ number, fs.nodeAt? place = some (.file number) → fs'.file? number = fs.file? number) :
    fs'.viewAt? place = fs.viewAt? place := by
  unfold viewAt?
  rw [hnode]
  refine Option.map_congr fun node h => shown_congr ?_
  rintro number rfl
  exact hfile number h

/-- Where an entry is shown, the view is that entry. -/
theorem viewAt?_of_entryAt? {entry : Entry} (h : fs.entryAt? place = some entry) :
    fs.viewAt? place = some (some entry) := by
  obtain ⟨node, hnode, hshown⟩ := nodeAt?_of_entryAt? h
  unfold viewAt?
  rw [hnode, Option.map_some, hshown]

theorem viewAt?_erase (fs : FileSystem) (hplace : place ≠ []) (other : Location) :
    (fs.erase place).viewAt? other = if other = place then none else fs.viewAt? other := by
  have hnode := fs.nodeAt?_erase hplace other
  by_cases hother : other = place
  · rw [if_pos hother] at hnode ⊢
    exact viewAt?_eq_none_iff.2 hnode
  · rw [if_neg hother] at hnode ⊢
    exact viewAt?_congr hnode fun _ _ => rfl

theorem viewAt?_put (fs : FileSystem) (hplace : place ≠ []) (entry : Entry) (other : Location) :
    (fs.put place entry).viewAt? other =
      if other = place then some (some entry) else fs.viewAt? other := by
  have hentry := fs.entryAt?_put hplace entry other
  by_cases hother : other = place
  · rw [if_pos hother] at hentry ⊢
    exact viewAt?_of_entryAt? hentry
  · rw [if_neg hother]
    cases entry with
    | file content mode =>
        refine viewAt?_congr ?_ ?_
        · rw [nodeAt?_put_file _ hplace, if_neg hother]
        · intro number hnode
          rw [file?_put_file, if_neg]
          intro hfresh
          rw [hfresh] at hnode
          exact fs.nodeAt?_ne_freshNumber other hnode
    | _ =>
        refine viewAt?_congr ?_ fun _ _ => rfl
        rw [put, nodeAt?_putNode _ hplace, if_neg hother]

/-- A file that is gone shows nothing, so what shows the same as a file is a file. -/
theorem isFile_of_shown {node : Node} {number : Nat} (h : fs'.shown node = fs.shown (.file number)) :
    node.isFile = true := by
  cases hfile : fs.file? number with
  | none =>
      have hnone : fs'.shown node = none := by simpa [shown, hfile] using h
      cases node with
      | file other => rfl
      | _ => cases hnone
  | some file =>
      have hshown : fs'.shown node = some (.file file.content file.mode) := by
        simpa [shown, hfile] using h
      cases node with
      | file other => rfl
      | _ => cases hshown

/-- The place holds a regular file or nothing. -/
def HoldsAtMostFile (fs : FileSystem) (place : Location) : Prop :=
  ∀ node, fs.nodeAt? place = some node → node.isFile = true

theorem HoldsAtMostFile.cases (h : fs.HoldsAtMostFile place) :
    fs.nodeAt? place = none ∨ ∃ number, fs.nodeAt? place = some (.file number) := by
  cases hnode : fs.nodeAt? place with
  | none => exact .inl rfl
  | some node =>
      have hfile := h node hnode
      cases node with
      | file number => exact .inr ⟨number, rfl⟩
      | _ => cases hfile

/-- What shows the same is still at most a file. -/
theorem HoldsAtMostFile.of_view (h : fs.HoldsAtMostFile place)
    (hview : fs'.viewAt? place = fs.viewAt? place) : fs'.HoldsAtMostFile place := by
  intro node hnode
  unfold viewAt? at hview
  rw [hnode] at hview
  cases h.cases with
  | inl hnone =>
      rw [hnone] at hview
      cases hview
  | inr hfile =>
      obtain ⟨number, hfile⟩ := hfile
      rw [hfile] at hview
      exact isFile_of_shown (Option.some.inj hview)

theorem HoldsAtMostFile.not_directory (h : fs.HoldsAtMostFile place) : ¬ fs.HoldsDirectory place := by
  intro hdirectory
  obtain ⟨mode, time, hnode⟩ := hdirectory
  have hfile := h _ hnode
  cases hfile

/-- How two trees compare where a walk comes by. -/
inductive SameWay (fs gs : FileSystem) (place : Location) : Prop
  | nothing (hfs : fs.nodeAt? place = none) (hgs : gs.nodeAt? place = none)
  | directory (mode : Nat) (time time' : Int) (hfs : fs.nodeAt? place = some (.directory mode time))
      (hgs : gs.nodeAt? place = some (.directory mode time'))
  | link (target : String) (hfs : fs.nodeAt? place = some (.link target))
      (hgs : gs.nodeAt? place = some (.link target))
  | leaf (node node' : Node) (hfs : fs.nodeAt? place = some node)
      (hgs : gs.nodeAt? place = some node') (hleaf : node.isLeaf = true)
      (hleaf' : node'.isLeaf = true)

/-- What shows the same is passed the same way. -/
theorem sameWay_of_view (h : fs.viewAt? place = gs.viewAt? place) : SameWay fs gs place := by
  unfold viewAt? at h
  cases hfs : fs.nodeAt? place with
  | none =>
      rw [hfs] at h
      exact .nothing hfs (Option.map_eq_none_iff.1 h.symm)
  | some node =>
      rw [hfs] at h
      obtain ⟨node', hgs, hshown⟩ := Option.map_eq_some_iff.1 h.symm
      cases node with
      | file number =>
          have hfile := isFile_of_shown hshown
          cases node' <;> cases hfile
          exact .leaf _ _ hfs hgs rfl rfl
      | directory mode time =>
          cases node' with
          | file number => cases isFile_of_shown hshown.symm
          | directory mode' time' =>
              cases hshown
              exact .directory mode time time' hfs hgs
          | _ => cases hshown
      | link target =>
          cases node' with
          | file number => cases isFile_of_shown hshown.symm
          | link target' =>
              cases hshown
              exact .link target hfs hgs
          | _ => cases hshown
      | _ =>
          cases node' with
          | file number => cases isFile_of_shown hshown.symm
          | directory => cases hshown
          | link => cases hshown
          | _ => exact .leaf _ _ hfs hgs rfl rfl

/-! ### Twins -/

/-- **Trees that differ in leftovers**: they show the same everywhere but at the hidden places, and
each holds a regular file or nothing there. -/
structure Twins (hidden : Location → Prop) (fs gs : FileSystem) : Prop where
  seen : ∀ place, ¬ hidden place → fs.viewAt? place = gs.viewAt? place
  leftover : ∀ place, hidden place → fs.HoldsAtMostFile place ∧ gs.HoldsAtMostFile place

/-- No place at all. -/
def nowhere : Location → Prop := fun _ => False

namespace Twins

theorem symm (h : Twins hidden fs gs) : Twins hidden gs fs where
  seen := fun place hplace => (h.seen place hplace).symm
  leftover := fun place hplace => (h.leftover place hplace).symm

theorem sameWay (h : Twins hidden fs gs) (hplace : ¬ hidden place) : SameWay fs gs place :=
  sameWay_of_view (h.seen place hplace)

/-- No directory is hidden. -/
theorem not_hidden (h : Twins hidden fs gs) (hplace : fs.HoldsDirectory place) : ¬ hidden place :=
  fun hhidden => (h.leftover place hhidden).1.not_directory hplace

/-- A directory of one tree is a directory of the other, with the same bits. -/
theorem directory (h : Twins hidden fs gs) {mode : Nat} {time : Int}
    (hnode : fs.nodeAt? place = some (.directory mode time)) :
    ∃ time', gs.nodeAt? place = some (.directory mode time') := by
  cases h.sameWay (h.not_hidden ⟨mode, time, hnode⟩) with
  | nothing hfs hgs => rw [hnode] at hfs; cases hfs
  | directory _ _ time' hfs hgs =>
      rw [hnode] at hfs
      cases hfs
      exact ⟨time', hgs⟩
  | link _ hfs hgs => rw [hnode] at hfs; cases hfs
  | leaf _ _ hfs hgs hleaf =>
      rw [hnode] at hfs
      cases hfs
      cases hleaf

theorem holdsDirectory (h : Twins hidden fs gs) (hplace : fs.HoldsDirectory place) :
    gs.HoldsDirectory place := by
  obtain ⟨mode, time, hnode⟩ := hplace
  obtain ⟨time', hnode'⟩ := h.directory hnode
  exact ⟨mode, time', hnode'⟩

theorem enters (h : Twins hidden fs gs) (hplace : fs.Enters place) : gs.Enters place := by
  obtain ⟨mode, time, hnode, hsearch⟩ := hplace
  obtain ⟨time', hnode'⟩ := h.directory hnode
  exact ⟨mode, time', hnode', hsearch⟩

/-- What is free in one tree is free in the other, unless it is hidden. -/
theorem free (h : Twins hidden fs gs) (hplace : ¬ hidden place) (hfree : fs.nodeAt? place = none) :
    gs.nodeAt? place = none := by
  have hview := h.seen place hplace
  rw [viewAt?_eq_none_iff.2 hfree] at hview
  exact viewAt?_eq_none_iff.1 hview.symm

end Twins

/-! ### Walks -/

section

variable {onLink onLink' : Location → Path → List PathStep → Except Errno Location}

/-- No walk goes on from what is no directory. -/
theorem descend_stuck (h : fs.HoldsAtMostFile here) (step : PathStep) (rest : List PathStep) :
    ∃ e, fs.descend onLink here (step :: rest) = .error e := by
  cases h.cases with
  | inl hnone => exact ⟨.noEntry, by simp [descend, hnone]⟩
  | inr hfile =>
      obtain ⟨number, hnode⟩ := hfile
      exact ⟨.notDirectory, by simp [descend, hnode]⟩

/-- A walk may end at a file or at nothing, and cannot go on from there. -/
theorem descend_onto (henters : fs.Enters here) (hname : ¬ nameLimit < name.utf8ByteSize)
    (hnext : fs.HoldsAtMostFile (here ++ [name])) :
    if rest = [] then fs.descend onLink here (.into name :: rest) = .ok (here ++ [name])
    else ∃ e, fs.descend onLink here (.into name :: rest) = .error e := by
  rw [descend_cons_of_enters henters]
  simp only [hname, if_false]
  cases hnext.cases with
  | inl hnone => by_cases hrest : rest = [] <;> simp [hrest, hnone]
  | inr hfile =>
      obtain ⟨number, hnode⟩ := hfile
      rw [hnode]
      cases rest with
      | nil => rfl
      | cons step more => exact descend_stuck hnext step more

/-- Who may not go on from a directory is told so. -/
theorem descend_closed {mode : Nat} {time : Int} {step : PathStep}
    (hnode : fs.nodeAt? here = some (.directory mode time))
    (hsearch : (Entry.directory mode).allows 1 = false) :
    fs.descend onLink here (step :: rest) = .error .accessDenied := by
  simp [descend, hnode, hsearch]

/-- Walks into what is not hidden agree, if they agree behind it. -/
theorem SameWay.into_agree {excused : Prop} (h : SameWay fs gs (here ++ [name]))
    (henters : fs.Enters here) (henters' : gs.Enters here)
    (hcross : ∀ target, Agree excused (onLink here target rest) (onLink' here target rest))
    (hrest : Agree excused (fs.descend onLink (here ++ [name]) rest)
      (gs.descend onLink' (here ++ [name]) rest)) :
    Agree excused (fs.descend onLink here (.into name :: rest))
      (gs.descend onLink' here (.into name :: rest)) := by
  rw [descend_cons_of_enters henters, descend_cons_of_enters henters']
  by_cases hname : nameLimit < name.utf8ByteSize
  · simp only [hname, if_true]
    exact .refl _
  simp only [hname, if_false]
  cases h with
  | nothing hfs hgs =>
      rw [hfs, hgs]
      exact .refl _
  | directory mode time time' hfs hgs =>
      rw [hfs, hgs]
      exact hrest
  | link target hfs hgs =>
      rw [hfs, hgs]
      exact hcross ⟨target⟩
  | leaf node node' hfs hgs hleaf hleaf' =>
      rw [hfs, hgs]
      cases node <;> cases hleaf <;> cases node' <;> cases hleaf' <;> exact hrest

/-- At a hidden place both walks have ended, or neither can go on. -/
theorem Twins.onto_agree (h : Twins hidden fs gs) (hnext : hidden (here ++ [name]))
    (henters : fs.Enters here) (henters' : gs.Enters here) :
    Agree (∃ place, hidden place) (fs.descend onLink here (.into name :: rest))
      (gs.descend onLink' here (.into name :: rest)) := by
  by_cases hname : nameLimit < name.utf8ByteSize
  · rw [descend_cons_of_enters henters, descend_cons_of_enters henters']
    simp only [hname, if_true]
    exact .refl _
  obtain ⟨hleft, hleft'⟩ := h.leftover _ hnext
  have hend : if rest = [] then fs.descend onLink here (.into name :: rest) = .ok (here ++ [name])
      else ∃ e, fs.descend onLink here (.into name :: rest) = .error e :=
    descend_onto henters hname hleft
  have hend' : if rest = [] then gs.descend onLink' here (.into name :: rest) = .ok (here ++ [name])
      else ∃ e, gs.descend onLink' here (.into name :: rest) = .error e :=
    descend_onto henters' hname hleft'
  by_cases hrest : rest = []
  · rw [if_pos hrest] at hend hend'
    rw [hend, hend']
    exact .refl _
  · rw [if_neg hrest] at hend hend'
    exact .inr ⟨⟨_, hnext⟩, hend, hend'⟩

/-- Walks in twins agree, if they agree behind links. -/
theorem Twins.descend_agree (h : Twins hidden fs gs)
    (hcross : ∀ here target rest,
      Agree (∃ place, hidden place) (onLink here target rest) (onLink' here target rest)) :
    Agree (∃ place, hidden place) (fs.descend onLink here steps) (gs.descend onLink' here steps) := by
  induction steps generalizing here with
  | nil => exact .refl _
  | cons step rest ih =>
      by_cases hhere : hidden here
      · obtain ⟨hfs, hgs⟩ := h.leftover here hhere
        exact .inr ⟨⟨here, hhere⟩, descend_stuck hfs step rest, descend_stuck hgs step rest⟩
      cases h.sameWay hhere with
      | nothing hfs hgs => exact .inl (by simp [descend, hfs, hgs])
      | link target hfs hgs => exact .inl (by simp [descend, hfs, hgs])
      | leaf node node' hfs hgs hleaf hleaf' =>
          refine .inl ?_
          cases node <;> cases hleaf <;> cases node' <;> cases hleaf' <;> simp [descend, hfs, hgs]
      | directory mode time time' hfs hgs =>
          cases hsearch : (Entry.directory mode).allows 1 with
          | false =>
              rw [descend_closed hfs hsearch, descend_closed hgs hsearch]
              exact .refl _
          | true =>
              have henters : fs.Enters here := ⟨mode, time, hfs, hsearch⟩
              have henters' : gs.Enters here := ⟨mode, time', hgs, hsearch⟩
              cases step with
              | stay =>
                  rw [descend_cons_of_enters henters, descend_cons_of_enters henters']
                  exact ih
              | up =>
                  rw [descend_cons_of_enters henters, descend_cons_of_enters henters']
                  exact ih
              | into name =>
                  by_cases hnext : hidden (here ++ [name])
                  · exact h.onto_agree hnext henters henters'
                  · exact (h.sameWay hnext).into_agree henters henters' (fun _ => hcross _ _ _) ih

end

namespace Twins

/-- **Walks in twins agree.** -/
theorem walk_agree (h : Twins hidden fs gs) (budget : Nat) (here : Location) (steps : List PathStep) :
    Agree (∃ place, hidden place) (fs.walk budget here steps) (gs.walk budget here steps) := by
  induction budget generalizing here steps with
  | zero =>
      rw [walk_eq_descend, walk_eq_descend]
      exact h.descend_agree fun _ _ _ => .refl _
  | succ budget ih =>
      rw [walk_eq_descend, walk_eq_descend]
      refine h.descend_agree fun here target rest => ?_
      by_cases htarget : target.text.isEmpty
      · simp only [crossing, htarget, if_true]
        exact .refl _
      · simp only [crossing, htarget]
        exact ih _ _

theorem reachParent_agree (h : Twins hidden fs gs) (cwd : Location) (p : Path) :
    Agree (∃ place, hidden place) (fs.reachParent cwd p) (gs.reachParent cwd p) := by
  refine (Agree.refl _).bind fun _ => (h.walk_agree _ _ _).bind fun parent => ?_
  by_cases hparent : hidden parent
  · obtain ⟨hleft, hleft'⟩ := h.leftover parent hparent
    refine .inr ⟨⟨parent, hparent⟩, ?_, ?_⟩
    · rcases hleft.cases with hnode | ⟨number, hnode⟩ <;> rw [hnode] <;> exact ⟨_, rfl⟩
    · rcases hleft'.cases with hnode | ⟨number, hnode⟩ <;> rw [hnode] <;> exact ⟨_, rfl⟩
  · cases h.sameWay hparent with
    | nothing hfs hgs => rw [hfs, hgs]; exact .refl _
    | directory _ _ _ hfs hgs => rw [hfs, hgs]; exact .refl _
    | link _ hfs hgs => rw [hfs, hgs]; exact .refl _
    | leaf node node' hfs hgs hleaf hleaf' =>
        refine .inl ?_
        rw [hfs, hgs]
        cases node <;> cases hleaf <;> cases node' <;> cases hleaf' <;> rfl

/-- **A path names the same entry in twins.** -/
theorem names (h : Twins hidden fs gs) (hnames : fs.Names cwd p parent name) :
    gs.Names cwd p parent name :=
  (h.reachParent_agree cwd p).eq_ok hnames

/-- Which places are hidden is a matter of what the predicate says. -/
theorem of_iff (h : Twins hidden fs gs) (hiff : ∀ place, hidden' place ↔ hidden place) :
    Twins hidden' fs gs where
  seen := fun place hplace => h.seen place fun hhidden => hplace ((hiff place).2 hhidden)
  leftover := fun place hplace => h.leftover place ((hiff place).1 hplace)

/-- **The same change at one place leaves twins**, and nothing is hidden there any more. -/
theorem update {view : Option (Option Entry)} (h : Twins hidden fs gs)
    (hfs : ∀ other, fs'.viewAt? other = if other = place then view else fs.viewAt? other)
    (hgs : ∀ other, gs'.viewAt? other = if other = place then view else gs.viewAt? other) :
    Twins (fun other => hidden other ∧ other ≠ place) fs' gs' where
  seen := by
    intro other hother
    rw [hfs, hgs]
    by_cases hplace : other = place
    · rw [if_pos hplace, if_pos hplace]
    · rw [if_neg hplace, if_neg hplace]
      exact h.seen other fun hhidden => hother ⟨hhidden, hplace⟩
  leftover := by
    intro other hother
    obtain ⟨hleft, hleft'⟩ := h.leftover other hother.1
    refine ⟨hleft.of_view ?_, hleft'.of_view ?_⟩
    · rw [hfs, if_neg hother.2]
    · rw [hgs, if_neg hother.2]

/-- A regular file may be left at a hidden place. -/
theorem leave (h : Twins hidden fs gs) (hplace : hidden place) (hne : place ≠ []) (content : Bytes)
    (mode : Nat) : Twins hidden fs (gs.put place (.file content mode)) where
  seen := by
    intro other hother
    rw [viewAt?_put _ hne, if_neg, h.seen other hother]
    intro heq
    exact hother (heq ▸ hplace)
  leftover := by
    intro other hother
    obtain ⟨hleft, hleft'⟩ := h.leftover other hother
    refine ⟨hleft, fun node hnode => ?_⟩
    rw [nodeAt?_put_file _ hne] at hnode
    split at hnode
    · cases hnode
      rfl
    · exact hleft' node hnode

/-- A change at a place that is not hidden leaves as much hidden as there was. -/
theorem update_clear {view : Option (Option Entry)} (h : Twins hidden fs gs) (hplace : ¬ hidden place)
    (hfs : ∀ other, fs'.viewAt? other = if other = place then view else fs.viewAt? other)
    (hgs : ∀ other, gs'.viewAt? other = if other = place then view else gs.viewAt? other) :
    Twins hidden fs' gs' := by
  refine (h.update hfs hgs).of_iff fun other => ⟨fun hother => ⟨hother, ?_⟩, And.left⟩
  intro heq
  exact hplace (heq ▸ hother)

end Twins

end FileSystem

/-! ### What is seen of staging files -/

section

open FileSystem

variable {before now after : FileSystem} {cwd parent place : Location} {name : String}
variable {content : Bytes} {mode : Nat} {s : Staged}

theorem Restored.viewAt? (h : Restored before after) (place : Location) :
    after.viewAt? place = before.viewAt? place := by
  refine viewAt?_congr (h.node place) fun number hnode => h.file number ?_
  intro heq
  rw [heq] at hnode
  exact before.nodeAt?_ne_freshNumber place hnode

theorem Replaced.viewAt? (h : Replaced before after place content mode) (other : Location) :
    after.viewAt? other =
      if other = place then some (some (.file content mode)) else before.viewAt? other := by
  by_cases hother : other = place
  · rw [if_pos hother]
    refine viewAt?_of_entryAt? ?_
    rw [h.entryAt?, if_pos hother]
  · rw [if_neg hother]
    have hnode := h.node other
    rw [if_neg hother] at hnode
    refine viewAt?_congr hnode fun number hfile => h.file number ?_
    intro heq
    rw [heq] at hfile
    exact before.nodeAt?_ne_freshNumber other hfile

theorem Staged.Holds.viewAt? (h : s.Holds before now cwd parent name content mode)
    (other : Location) :
    now.viewAt? other =
      if other = parent ++ [name] then some (some (.file content mode)) else before.viewAt? other := by
  by_cases hother : other = parent ++ [name]
  · rw [if_pos hother, hother]
    exact viewAt?_of_entryAt? h.entryAt?_self
  · rw [if_neg hother]
    refine viewAt?_congr (h.node_of_ne hother) fun number hfile => h.file number ?_
    intro heq
    rw [heq, h.fresh] at hfile
    exact before.nodeAt?_ne_freshNumber other hfile

end

end Bootstrap
