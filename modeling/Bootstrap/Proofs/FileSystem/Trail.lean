import Bootstrap.FileSystem.Resolve

/-!
# Trails

A walk along a path is a function that counts the links it may still follow.  A
**trail** is the same walk as a relation: it says which links were followed and how
many, so a fact about every walk is an induction over trails.

* `walk_eq_ok_iff` — a walk arrives exactly if there is a trail with no more links
  than it may follow;
* `Trail.unique` — no two trails along the same steps end at different places;
* `Trail.split`, `Trail.append` — a trail can be cut between two steps, and put
  together again where the second part goes on from a directory;
* `Trail.keep` — a trail to a directory is still there after changes at blunt places,
  which are those that lead to no directory;
* `Trail.agree` — a tree that only grew new directories and files leads to the same
  directories, if it leads to directories at all.
-/

namespace Bootstrap

/-- A node without the time of a directory. -/
def Node.still : Node → Node
  | .directory mode _ => .directory mode 0
  | node => node

namespace FileSystem

/-- A walk can take a further step from this place: it is a directory that may be searched. -/
def Enters (fs : FileSystem) (place : Location) : Prop :=
  ∃ mode time, fs.nodeAt? place = some (.directory mode time) ∧
    (Entry.directory mode).allows 1 = true

/-- The place holds a directory. -/
def HoldsDirectory (fs : FileSystem) (place : Location) : Prop :=
  ∃ mode time, fs.nodeAt? place = some (.directory mode time)

theorem Enters.holdsDirectory {fs : FileSystem} {place : Location} (h : fs.Enters place) :
    fs.HoldsDirectory place := by
  obtain ⟨mode, time, hnode, _⟩ := h
  exact ⟨mode, time, hnode⟩

/-- The root can always be searched. -/
theorem enters_root (fs : FileSystem) : fs.Enters [] :=
  ⟨commonMode, 0, rfl, by decide⟩

/-- A walk along steps as a relation.  The number counts the links that were followed.  Only the
last step may lead to nothing. -/
inductive Trail (fs : FileSystem) : Nat → Location → List PathStep → Location → Prop
  | done (here : Location) : Trail fs 0 here [] here
  | stay {links : Nat} {here place : Location} {rest : List PathStep}
      (henters : fs.Enters here) (tail : Trail fs links here rest place) :
      Trail fs links here (.stay :: rest) place
  | up {links : Nat} {here place : Location} {rest : List PathStep}
      (henters : fs.Enters here) (tail : Trail fs links here.dropLast rest place) :
      Trail fs links here (.up :: rest) place
  | missing {here : Location} {name : String}
      (henters : fs.Enters here) (hname : ¬ nameLimit < name.utf8ByteSize)
      (hnone : fs.nodeAt? (here ++ [name]) = none) :
      Trail fs 0 here [.into name] (here ++ [name])
  | follow {links : Nat} {here place : Location} {name target : String} {rest : List PathStep}
      (henters : fs.Enters here) (hname : ¬ nameLimit < name.utf8ByteSize)
      (hlink : fs.nodeAt? (here ++ [name]) = some (.link target)) (htarget : target.isEmpty = false)
      (tail : Trail fs links (origin here ⟨target⟩) (Path.steps ⟨target⟩ ++ rest) place) :
      Trail fs (links + 1) here (.into name :: rest) place
  | enter {links : Nat} {here place : Location} {name : String} {node : Node}
      {rest : List PathStep}
      (henters : fs.Enters here) (hname : ¬ nameLimit < name.utf8ByteSize)
      (hnode : fs.nodeAt? (here ++ [name]) = some node) (hplain : ∀ target, node ≠ .link target)
      (tail : Trail fs links (here ++ [name]) rest place) :
      Trail fs links here (.into name :: rest) place

variable {fs fs' : FileSystem} {links links' budget : Nat} {here place place' : Location}
variable {steps rest : List PathStep} {name : String}

/-- What a walk with this budget does where it meets a link. -/
def crossing (fs : FileSystem) : Nat → Location → Path → List PathStep → Except Errno Location
  | 0, _, _, _ => .error .linkLoop
  | budget + 1, here, target, rest =>
      if target.text.isEmpty then .error .noEntry
      else fs.walk budget (origin here target) (target.steps ++ rest)

theorem walk_eq_descend (fs : FileSystem) (budget : Nat) :
    fs.walk budget = fs.descend (fs.crossing budget) := by
  cases budget <;> rfl

/-- A descent can go on from a directory that may be searched, and from nowhere else. -/
theorem descend_cons_of_enters
    {onLink : Location → Path → List PathStep → Except Errno Location} {step : PathStep}
    (henters : fs.Enters here) :
    fs.descend onLink here (step :: rest) =
      match step with
      | .stay => fs.descend onLink here rest
      | .up => fs.descend onLink here.dropLast rest
      | .into name =>
          if nameLimit < name.utf8ByteSize then .error .nameTooLong
          else
            match fs.nodeAt? (here ++ [name]) with
            | none => if rest = [] then .ok (here ++ [name]) else .error .noEntry
            | some (.link target) => onLink here ⟨target⟩ rest
            | some _ => fs.descend onLink (here ++ [name]) rest := by
  obtain ⟨mode, time, hnode, hsearch⟩ := henters
  simp only [descend, hnode, hsearch]
  rfl

theorem enters_of_descend_cons
    {onLink : Location → Path → List PathStep → Except Errno Location} {step : PathStep}
    (h : fs.descend onLink here (step :: rest) = .ok place) : fs.Enters here := by
  unfold descend at h
  split at h
  · cases h
  · rename_i mode time hnode
    cases hsearch : (Entry.directory mode).allows 1 with
    | true => exact ⟨mode, time, hnode, hsearch⟩
    | false => simp [hsearch] at h
  · cases h

/-- A descent that arrives is a trail, if the walks on behind its links are. -/
theorem trail_of_descend
    {onLink : Location → Path → List PathStep → Except Errno Location}
    (hcross : ∀ (here : Location) (target : String) (rest : List PathStep) (place : Location),
      onLink here ⟨target⟩ rest = .ok place →
      target.isEmpty = false ∧
        ∃ links, links + 1 ≤ budget ∧
          Trail fs links (origin here ⟨target⟩) (Path.steps ⟨target⟩ ++ rest) place)
    (h : fs.descend onLink here steps = .ok place) :
    ∃ links, links ≤ budget ∧ Trail fs links here steps place := by
  induction steps generalizing here with
  | nil =>
      cases h
      exact ⟨0, Nat.zero_le _, .done _⟩
  | cons step rest ih =>
      have henters := enters_of_descend_cons h
      rw [descend_cons_of_enters henters] at h
      cases step with
      | stay =>
          obtain ⟨links, hle, tail⟩ := ih h
          exact ⟨links, hle, .stay henters tail⟩
      | up =>
          obtain ⟨links, hle, tail⟩ := ih h
          exact ⟨links, hle, .up henters tail⟩
      | into name =>
          by_cases hname : nameLimit < name.utf8ByteSize
          · simp [hname] at h
          simp only [hname, if_false] at h
          cases hnode : fs.nodeAt? (here ++ [name]) with
          | none =>
              simp only [hnode] at h
              by_cases hrest : rest = []
              · subst hrest
                cases h
                exact ⟨0, Nat.zero_le _, .missing henters hname hnode⟩
              · simp [hrest] at h
          | some node =>
              simp only [hnode] at h
              cases node with
              | link target =>
                  obtain ⟨htarget, links, hle, tail⟩ := hcross _ _ _ _ h
                  exact ⟨links + 1, hle, .follow henters hname hnode htarget tail⟩
              | _ =>
                  obtain ⟨links, hle, tail⟩ := ih h
                  exact ⟨links, hle, .enter henters hname hnode (by simp) tail⟩

/-- A walk that arrives is a trail with no more links than its budget. -/
theorem trail_of_walk (h : fs.walk budget here steps = .ok place) :
    ∃ links, links ≤ budget ∧ Trail fs links here steps place := by
  induction budget generalizing here steps place with
  | zero =>
      rw [walk_eq_descend] at h
      exact trail_of_descend (by intro _ _ _ _ h; cases h) h
  | succ budget ih =>
      rw [walk_eq_descend] at h
      refine trail_of_descend ?_ h
      intro here target rest place hcross
      unfold crossing at hcross
      cases htarget : target.isEmpty with
      | true => simp [htarget] at hcross
      | false =>
          simp only [htarget] at hcross
          obtain ⟨links, hle, tail⟩ := ih hcross
          exact ⟨rfl, links, by omega, tail⟩

/-- A walk follows a trail, if its budget suffices. -/
theorem Trail.walk (h : Trail fs links here steps place) (hle : links ≤ budget) :
    fs.walk budget here steps = .ok place := by
  induction h generalizing budget with
  | done here => rw [walk_eq_descend]; rfl
  | stay henters _ ih =>
      rw [walk_eq_descend, descend_cons_of_enters henters, ← walk_eq_descend]
      exact ih hle
  | up henters _ ih =>
      rw [walk_eq_descend, descend_cons_of_enters henters, ← walk_eq_descend]
      exact ih hle
  | missing henters hname hnone =>
      rw [walk_eq_descend, descend_cons_of_enters henters]
      simp [hname, hnone]
  | follow henters hname hlink htarget _ ih =>
      obtain ⟨budget, rfl⟩ : ∃ n, budget = n + 1 := ⟨budget - 1, by omega⟩
      rw [walk_eq_descend, descend_cons_of_enters henters]
      simp only [hname, if_false, hlink, crossing, htarget]
      exact ih (by omega)
  | @enter _ here _ name node rest henters hname hnode hplain _ ih =>
      rw [walk_eq_descend, descend_cons_of_enters henters]
      simp only [hname, if_false, hnode]
      cases node with
      | link target => exact absurd rfl (hplain target)
      | _ => rw [← walk_eq_descend]; exact ih hle

/-- A walk arrives exactly if there is a trail with no more links than it may follow. -/
theorem walk_eq_ok_iff :
    fs.walk budget here steps = .ok place ↔
      ∃ links, links ≤ budget ∧ Trail fs links here steps place :=
  ⟨trail_of_walk, fun ⟨_, hle, h⟩ => h.walk hle⟩

/-- Steps lead to one place. -/
theorem Trail.unique (h : Trail fs links here steps place)
    (h' : Trail fs links' here steps place') : place = place' := by
  have hw := h.walk (Nat.le_max_left links links')
  have hw' := h'.walk (Nat.le_max_right links links')
  exact Except.ok.inj (hw.symm.trans hw')

/-- A trail that goes on begins in a directory. -/
theorem Trail.enters_of_cons {step : PathStep} (h : Trail fs links here (step :: rest) place) :
    fs.Enters here := by
  cases h <;> assumption

/-- A trail can be cut where steps are left; it goes on from a directory. -/
theorem Trail.split {first second : List PathStep}
    (h : Trail fs links here (first ++ second) place) (hsecond : second ≠ []) :
    ∃ m n middle, links = m + n ∧ Trail fs m here first middle ∧ Trail fs n middle second place := by
  generalize hall : first ++ second = all at h
  induction h generalizing first with
  | done here => simp [hsecond] at hall
  | @stay _ here _ _ henters tail ih =>
      cases first with
      | nil =>
          rw [List.nil_append] at hall
          subst hall
          exact ⟨0, _, here, (Nat.zero_add _).symm, .done _, .stay henters tail⟩
      | cons step first =>
          simp only [List.cons_append, List.cons.injEq] at hall
          obtain ⟨rfl, hall⟩ := hall
          obtain ⟨m, n, middle, hsum, hleft, hright⟩ := ih hall
          exact ⟨m, n, middle, hsum, .stay henters hleft, hright⟩
  | @up _ here _ _ henters tail ih =>
      cases first with
      | nil =>
          rw [List.nil_append] at hall
          subst hall
          exact ⟨0, _, here, (Nat.zero_add _).symm, .done _, .up henters tail⟩
      | cons step first =>
          simp only [List.cons_append, List.cons.injEq] at hall
          obtain ⟨rfl, hall⟩ := hall
          obtain ⟨m, n, middle, hsum, hleft, hright⟩ := ih hall
          exact ⟨m, n, middle, hsum, .up henters hleft, hright⟩
  | @missing here _ henters hname hnone =>
      cases first with
      | nil =>
          rw [List.nil_append] at hall
          subst hall
          exact ⟨0, _, here, (Nat.zero_add _).symm, .done _, .missing henters hname hnone⟩
      | cons step first => simp [hsecond] at hall
  | @follow _ here _ _ _ _ henters hname hlink htarget tail ih =>
      cases first with
      | nil =>
          rw [List.nil_append] at hall
          subst hall
          exact ⟨0, _, here, (Nat.zero_add _).symm, .done _, .follow henters hname hlink htarget tail⟩
      | cons step first =>
          simp only [List.cons_append, List.cons.injEq] at hall
          obtain ⟨rfl, rfl⟩ := hall
          obtain ⟨m, n, middle, hsum, hleft, hright⟩ := ih (List.append_assoc _ _ _)
          exact ⟨m + 1, n, middle, by omega, .follow henters hname hlink htarget hleft, hright⟩
  | @enter _ here _ _ _ _ henters hname hnode hplain tail ih =>
      cases first with
      | nil =>
          rw [List.nil_append] at hall
          subst hall
          exact ⟨0, _, here, (Nat.zero_add _).symm, .done _, .enter henters hname hnode hplain tail⟩
      | cons step first =>
          simp only [List.cons_append, List.cons.injEq] at hall
          obtain ⟨rfl, hall⟩ := hall
          obtain ⟨m, n, middle, hsum, hleft, hright⟩ := ih hall
          exact ⟨m, n, middle, hsum, .enter henters hname hnode hplain hleft, hright⟩

/-- A trail to a directory that may be searched can be prolonged from there. -/
theorem Trail.append {first second : List PathStep} {m n : Nat} {middle : Location}
    (h : Trail fs m here first middle) (h' : Trail fs n middle second place)
    (henters : fs.Enters middle) : Trail fs (m + n) here (first ++ second) place := by
  induction h with
  | done here => simpa using h'
  | stay hhere _ ih => exact .stay hhere (ih h' henters)
  | up hhere _ ih => exact .up hhere (ih h' henters)
  | missing _ _ hnone =>
      obtain ⟨_, _, hnode, _⟩ := henters
      rw [hnone] at hnode
      cases hnode
  | @follow k here _ name target rest hhere hname hlink htarget _ ih =>
      have tail := ih h' henters
      rw [List.append_assoc] at tail
      have : k + 1 + n = k + n + 1 := by omega
      rw [this]
      exact .follow hhere hname hlink htarget tail
  | enter hhere hname hnode hplain _ ih => exact .enter hhere hname hnode hplain (ih h' henters)

/-- The name stands for no directory and leads to none. -/
structure Blunt (fs : FileSystem) (parent : Location) (name : String) : Prop where
  plain : ¬ fs.HoldsDirectory (parent ++ [name])
  leads : ∀ links place, Trail fs links parent [.into name] place → ¬ fs.HoldsDirectory place

/-- A directory that a trail can pass is where that trail comes to. -/
theorem Trail.enter_directory (henters : fs.Enters here) (hname : ¬ nameLimit < name.utf8ByteSize)
    (hdirectory : fs.HoldsDirectory (here ++ [name])) :
    Trail fs 0 here [.into name] (here ++ [name]) := by
  obtain ⟨mode, time, hnode⟩ := hdirectory
  exact .enter henters hname hnode (by simp) (.done _)

theorem Trail.name_le (h : Trail fs links here (.into name :: rest) place) :
    ¬ nameLimit < name.utf8ByteSize := by
  cases h <;> assumption

/-- A name that leads to something that is no directory is blunt. -/
theorem Trail.blunt (h : Trail fs links here [.into name] place)
    (hplain : ¬ fs.HoldsDirectory place) : fs.Blunt here name where
  plain := by
    intro hdirectory
    have := (Trail.enter_directory h.enters_of_cons h.name_le hdirectory).unique h
    exact hplain (this ▸ hdirectory)
  leads := by
    intro links' place' h'
    rwa [← h.unique h']

/-- A name that stands for nothing is blunt. -/
theorem blunt_of_absent (hnone : fs.nodeAt? (here ++ [name]) = none) : fs.Blunt here name := by
  have hplain : ¬ fs.HoldsDirectory (here ++ [name]) := by
    rintro ⟨mode, time, hnode⟩
    rw [hnone] at hnode
    cases hnode
  refine ⟨hplain, ?_⟩
  intro links place h
  cases h with
  | missing => exact hplain
  | follow _ _ hlink => rw [hnone] at hlink; cases hlink
  | enter _ _ hnode => rw [hnone] at hnode; cases hnode

/-- A name that stands for a file is blunt. -/
theorem blunt_of_file {number : Nat} (hfile : fs.nodeAt? (here ++ [name]) = some (.file number)) :
    fs.Blunt here name := by
  have hplain : ¬ fs.HoldsDirectory (here ++ [name]) := by
    rintro ⟨mode, time, hnode⟩
    rw [hfile] at hnode
    cases hnode
  refine ⟨hplain, ?_⟩
  intro links place h
  cases h with
  | missing => exact hplain
  | follow _ _ hlink => rw [hfile] at hlink; cases hlink
  | enter _ _ _ _ tail =>
      cases tail
      exact hplain

/-- Nothing lies behind a blunt name, so a trail to a directory never passes one. -/
theorem Blunt.not_passed (hblunt : fs.Blunt here name)
    (h : Trail fs links here (.into name :: rest) place) (hplace : fs.HoldsDirectory place) :
    False := by
  cases rest with
  | nil => exact hblunt.leads _ _ h hplace
  | cons step rest =>
      have hcut : Trail fs links here ([.into name] ++ step :: rest) place := h
      obtain ⟨_, _, middle, _, hleft, hright⟩ := hcut.split (by simp)
      exact hblunt.leads _ _ hleft hright.enters_of_cons.holdsDirectory

/-- Two trees hold the same at a place, but for the time of a directory. -/
def AlikeAt (fs fs' : FileSystem) (place : Location) : Prop :=
  (fs'.nodeAt? place).map Node.still = (fs.nodeAt? place).map Node.still

theorem alikeAt_of_eq (h : fs'.nodeAt? place = fs.nodeAt? place) : AlikeAt fs fs' place :=
  congrArg _ h

theorem alikeAt_root (fs fs' : FileSystem) : AlikeAt fs fs' [] := alikeAt_of_eq rfl

theorem AlikeAt.enters (h : AlikeAt fs fs' place) (henters : fs.Enters place) :
    fs'.Enters place := by
  obtain ⟨mode, time, hnode, hsearch⟩ := henters
  rw [AlikeAt, hnode] at h
  obtain ⟨node, hnode', hstill⟩ := Option.map_eq_some_iff.1 h
  cases node with
  | directory mode' time' =>
      cases hstill
      exact ⟨mode, time', hnode', hsearch⟩
  | _ => cases hstill

theorem AlikeAt.none (h : AlikeAt fs fs' place) (hnone : fs.nodeAt? place = none) :
    fs'.nodeAt? place = none := by
  rw [AlikeAt, hnone] at h
  exact Option.map_eq_none_iff.1 h

theorem AlikeAt.link {target : String} (h : AlikeAt fs fs' place)
    (hlink : fs.nodeAt? place = some (.link target)) :
    fs'.nodeAt? place = some (.link target) := by
  rw [AlikeAt, hlink] at h
  obtain ⟨node, hnode', hstill⟩ := Option.map_eq_some_iff.1 h
  cases node with
  | link target' => cases hstill; exact hnode'
  | _ => cases hstill

theorem AlikeAt.plain {node : Node} (h : AlikeAt fs fs' place)
    (hnode : fs.nodeAt? place = some node) (hplain : ∀ target, node ≠ .link target) :
    ∃ node', fs'.nodeAt? place = some node' ∧ ∀ target, node' ≠ .link target := by
  rw [AlikeAt, hnode] at h
  obtain ⟨node', hnode', hstill⟩ := Option.map_eq_some_iff.1 h
  refine ⟨node', hnode', ?_⟩
  rintro target rfl
  cases node with
  | link target' => exact hplain target' rfl
  | _ => cases hstill

/-- **Frame of a walk.**  A trail to a directory is still there in a tree that differs only at blunt
names, whatever stands at these now. -/
theorem Trail.keep (h : Trail fs links here steps place) (hplace : fs.HoldsDirectory place)
    (changed : Location → Prop)
    (hblunt : ∀ parent name, changed (parent ++ [name]) → fs.Blunt parent name)
    (hsame : ∀ other, ¬ changed other → AlikeAt fs fs' other) :
    Trail fs' links here steps place := by
  have hdirectory : ∀ other, fs.HoldsDirectory other → AlikeAt fs fs' other := by
    intro other hother
    rcases List.eq_nil_or_concat other with rfl | ⟨parent, name, rfl⟩
    · exact alikeAt_root fs fs'
    · rw [List.concat_eq_append] at hother ⊢
      exact hsame _ fun hchanged => (hblunt _ _ hchanged).plain hother
  induction h with
  | done here => exact .done here
  | stay henters _ ih =>
      exact .stay ((hdirectory _ henters.holdsDirectory).enters henters) (ih hplace)
  | up henters _ ih =>
      exact .up ((hdirectory _ henters.holdsDirectory).enters henters) (ih hplace)
  | missing _ _ hnone =>
      obtain ⟨_, _, hnode⟩ := hplace
      rw [hnone] at hnode
      cases hnode
  | @follow _ here _ name _ _ henters hname hlink htarget tail ih =>
      by_cases hchanged : changed (here ++ [name])
      · exact ((hblunt _ _ hchanged).not_passed (.follow henters hname hlink htarget tail)
          hplace).elim
      · exact .follow ((hdirectory _ henters.holdsDirectory).enters henters) hname
          ((hsame _ hchanged).link hlink) htarget (ih hplace)
  | @enter _ here _ name _ _ henters hname hnode hplain tail ih =>
      by_cases hchanged : changed (here ++ [name])
      · exact ((hblunt _ _ hchanged).not_passed (.enter henters hname hnode hplain tail)
          hplace).elim
      · obtain ⟨node', hnode', hplain'⟩ := (hsame _ hchanged).plain hnode hplain
        exact .enter ((hdirectory _ henters.holdsDirectory).enters henters) hname hnode' hplain'
          (ih hplace)

/-- What may become of a place in a tree that only grows: it stays as it is, or a directory or a
file comes where nothing was, or a file comes in the place of something that is no directory. -/
def GrownAt (fs fs' : FileSystem) (place : Location) : Prop :=
  AlikeAt fs fs' place ∨ (fs.nodeAt? place = none ∧ fs'.HoldsDirectory place) ∨
    (¬ fs.HoldsDirectory place ∧ ∃ number, fs'.nodeAt? place = some (.file number))

theorem GrownAt.holdsDirectory (h : GrownAt fs fs' place) (hplace : fs.HoldsDirectory place) :
    fs'.HoldsDirectory place := by
  obtain ⟨mode, time, hnode⟩ := hplace
  rcases h with h | ⟨hnone, _⟩ | ⟨hplain, _⟩
  · rw [AlikeAt, hnode] at h
    obtain ⟨node, hnode', hstill⟩ := Option.map_eq_some_iff.1 h
    cases node with
    | directory mode' time' => exact ⟨mode', time', hnode'⟩
    | _ => cases hstill
  · rw [hnone] at hnode
    cases hnode
  · exact (hplain ⟨mode, time, hnode⟩).elim

/-- **Growth misleads nobody.**  If steps lead somewhere in a tree, and to a directory after the tree
has grown, then they lead to the same place. -/
theorem Trail.agree (h' : Trail fs' links' here steps place') (hplace : fs'.HoldsDirectory place')
    (hgrown : ∀ other, GrownAt fs fs' other) (h : Trail fs links here steps place) :
    place = place' := by
  induction h' generalizing links with
  | done here => cases h; rfl
  | stay _ _ ih => cases h with | stay _ tail => exact ih hplace tail
  | up _ _ ih => cases h with | up _ tail => exact ih hplace tail
  | missing _ _ hnone =>
      obtain ⟨_, _, hnode⟩ := hplace
      rw [hnone] at hnode
      cases hnode
  | @follow _ here _ name target rest _ _ hlink _ _ ih =>
      have hlink' : fs.nodeAt? (here ++ [name]) = some (.link target) := by
        rcases hgrown (here ++ [name]) with hsame | ⟨_, _, _, hnode⟩ | ⟨_, _, hnode⟩
        · exact AlikeAt.link hsame.symm hlink
        · rw [hlink] at hnode; cases hnode
        · rw [hlink] at hnode; cases hnode
      cases h with
      | missing _ _ hnone => rw [hlink'] at hnone; cases hnone
      | follow _ _ hfound _ tail =>
          rw [hlink'] at hfound
          cases hfound
          exact ih hplace tail
      | enter _ _ hnode hplain _ =>
          rw [hlink'] at hnode
          cases hnode
          exact (hplain _ rfl).elim
  | @enter _ here _ name node rest _ _ hnode hplain tail' ih =>
      have hdirectory : fs'.HoldsDirectory (here ++ [name]) := by
        cases rest with
        | nil => cases tail'; exact hplace
        | cons step rest => exact tail'.enters_of_cons.holdsDirectory
      cases h with
      | missing => cases tail'; rfl
      | follow _ _ hlink =>
          obtain ⟨mode, time, hdir⟩ := hdirectory
          rcases hgrown (here ++ [name]) with hsame | ⟨hnone, _⟩ | ⟨_, _, hfile⟩
          · exact (hplain _ (Option.some.inj (hnode.symm.trans (hsame.link hlink)))).elim
          · rw [hlink] at hnone; cases hnone
          · rw [hdir] at hfile; cases hfile
      | enter _ _ _ _ tail => exact ih hplace tail

end FileSystem

end Bootstrap
