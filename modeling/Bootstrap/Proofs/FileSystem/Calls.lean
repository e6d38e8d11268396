import Bootstrap.Proofs.FileSystem.View

/-!
# What each call does

For every call that changes a name there is one statement here: when it succeeds, and
which tree it gives then.  Later proofs use these and do not open the calls.

* `createNew_eq_ok_iff`, `unlink_eq_ok_iff` — a new file, a name less;
* `rename_file_eq_ok` — what becomes of a file that is moved;
* `setMode_of_names` — bits for a file that has a name;
* `makeDirectory_eq_ok`, `makeDirectory_of_isDirectory` — a directory comes where nothing
  was; one that is there is not made again.
-/

namespace Bootstrap.FileSystem

variable {fs fs' : FileSystem} {cwd parent place : Location} {p q : Path} {name : String}

theorem lookupName_eq_ok_iff {found : Option Node} :
    fs.lookupName parent name = .ok found ↔
      ¬ nameLimit < name.utf8ByteSize ∧ found = fs.nodeAt? (parent ++ [name]) := by
  unfold lookupName
  by_cases h : nameLimit < name.utf8ByteSize
  · simp [h]
  · simp [h, eq_comm]

/-- The right to change names depends on the directory alone. -/
theorem writable_congr (h : AlikeAt fs fs' place) : fs'.writable place = fs.writable place := by
  unfold writable
  unfold AlikeAt at h
  cases hnode : fs.nodeAt? place with
  | none =>
      rw [hnode] at h
      rw [Option.map_eq_none_iff.1 h]
  | some node =>
      rw [hnode] at h
      obtain ⟨node', hnode', hstill⟩ := Option.map_eq_some_iff.1 h
      rw [hnode']
      cases node <;> cases node' <;> cases hstill <;> rfl

/-- Who may not change names is told so. -/
theorem eq_of_writable {e : Errno} (h : fs.writable place = .error e) : e = .accessDenied := by
  unfold writable at h
  split at h
  · split at h <;> cases h
    rfl
  · cases h

theorem named_eq {named : Named} (hlast : named.last = .name name) (hslash : named.slash = false)
    (h : fs.reachParent cwd p = .ok named) : fs.Names cwd p named.parent name := by
  unfold Names
  rw [h, ← hlast, ← hslash]

/-- What is found without following a link at the end of the path is the entry that the path names. -/
theorem names_of_linkStat (hends : p.Ends first name) (h : fs.linkStat cwd p = .ok entry) :
    ∃ parent, fs.Names cwd p parent name ∧ ¬ nameLimit < name.utf8ByteSize ∧
      fs.entryAt? (parent ++ [name]) = some entry := by
  unfold linkStat at h
  rw [hends.noSlash, if_neg (by decide)] at h
  obtain ⟨named, hnamed, hfound⟩ := bind_eq_ok_iff.1 h
  obtain ⟨_, _, _, hlast, hslash⟩ := reachParent_eq_ok_iff.1 hnamed
  have hname : named.last = .name name := by
    rw [hlast, hends.bare]
    simp [Last.ofStep]
  simp only [hname] at hfound
  obtain ⟨node, hlookup, hshown⟩ := bind_eq_ok_iff.1 hfound
  obtain ⟨hshort, rfl⟩ := lookupName_eq_ok_iff.1 hlookup
  refine ⟨named.parent, named_eq hname (hslash.trans hends.noSlash) hnamed, hshort, ?_⟩
  unfold entryAt?
  split at hshown
  · rename_i hentry
    cases hshown
    exact hentry
  · cases hshown

/-- A new file needs a free name in a directory whose names may be changed. -/
theorem createNew_eq_ok_iff {mode : Nat} :
    fs.createNew cwd p mode = .ok fs' ↔
      ∃ parent name, fs.Names cwd p parent name ∧ ¬ nameLimit < name.utf8ByteSize ∧
        fs.nodeAt? (parent ++ [name]) = none ∧ fs.writable parent = .ok () ∧
        fs' = fs.put (parent ++ [name]) (.file [] mode) := by
  unfold createNew
  rw [bind_eq_ok_iff]
  constructor
  · rintro ⟨⟨parent, last, slash⟩, hnamed, h⟩
    cases last with
    | name name =>
        obtain ⟨found, hfound, h⟩ := bind_eq_ok_iff.1 h
        obtain ⟨hname, rfl⟩ := lookupName_eq_ok_iff.1 hfound
        cases hnode : fs.nodeAt? (parent ++ [name]) with
        | some node => simp [hnode, throw, throwThe, MonadExceptOf.throw] at h
        | none =>
            cases slash with
            | true => simp [hnode, throw, throwThe, MonadExceptOf.throw] at h
            | false =>
                simp only [hnode, Bool.false_eq_true, if_false] at h
                obtain ⟨⟨⟩, hwritable, h⟩ := bind_eq_ok_iff.1 h
                cases h
                exact ⟨parent, name, hnamed, hname, hnode, hwritable, rfl⟩
    | _ => cases h
  · rintro ⟨parent, name, hnamed, hname, hnode, hwritable, rfl⟩
    refine ⟨_, hnamed, ?_⟩
    simp only [bind_eq_ok_iff]
    refine ⟨none, lookupName_eq_ok_iff.2 ⟨hname, hnode.symm⟩, ?_⟩
    simp only [Bool.false_eq_true, if_false, bind_eq_ok_iff]
    exact ⟨(), hwritable, rfl⟩

/-- A name can be removed that stands for something else than a directory, in a directory whose
names may be changed. -/
theorem unlink_eq_ok_iff :
    fs.unlink cwd p = .ok fs' ↔
      ∃ parent name node, fs.Names cwd p parent name ∧ ¬ nameLimit < name.utf8ByteSize ∧
        fs.nodeAt? (parent ++ [name]) = some node ∧ node.isDirectory = false ∧
        fs.writable parent = .ok () ∧ fs' = fs.erase (parent ++ [name]) := by
  unfold unlink
  rw [bind_eq_ok_iff]
  constructor
  · rintro ⟨⟨parent, last, slash⟩, hnamed, h⟩
    cases last with
    | name name =>
        obtain ⟨found, hfound, h⟩ := bind_eq_ok_iff.1 h
        obtain ⟨hname, rfl⟩ := lookupName_eq_ok_iff.1 hfound
        cases hnode : fs.nodeAt? (parent ++ [name]) with
        | none => simp [hnode, throw, throwThe, MonadExceptOf.throw] at h
        | some node =>
            cases slash with
            | true => simp [hnode, throw, throwThe, MonadExceptOf.throw] at h
            | false =>
                simp only [hnode, Bool.false_eq_true, if_false] at h
                obtain ⟨⟨⟩, hwritable, h⟩ := bind_eq_ok_iff.1 h
                cases hdirectory : node.isDirectory with
                | true => simp [hdirectory, throw, throwThe, MonadExceptOf.throw] at h
                | false =>
                    simp only [hdirectory, Bool.false_eq_true, if_false] at h
                    cases h
                    exact ⟨parent, name, node, hnamed, hname, hnode, hdirectory, hwritable, rfl⟩
    | _ => cases h
  · rintro ⟨parent, name, node, hnamed, hname, hnode, hdirectory, hwritable, rfl⟩
    refine ⟨_, hnamed, ?_⟩
    simp only [bind_eq_ok_iff]
    refine ⟨some node, lookupName_eq_ok_iff.2 ⟨hname, hnode.symm⟩, ?_⟩
    simp only [Bool.false_eq_true, if_false, bind_eq_ok_iff]
    refine ⟨(), hwritable, ?_⟩
    simp only [hdirectory, Bool.false_eq_true, if_false]
    rfl

/-- The path names nothing that is there. -/
def Vacant (fs : FileSystem) (cwd : Location) (p : Path) : Prop :=
  ∀ parent name, fs.Names cwd p parent name → fs.nodeAt? (parent ++ [name]) = none

/-- The path of an entry that was removed names nothing. -/
theorem vacant_erase (h : fs.Names cwd p parent name) :
    (fs.erase (parent ++ [name])).Vacant cwd p := by
  intro parent' name' hnames
  have hnode := fs.nodeAt?_erase (append_ne_nil parent name)
  have hbefore : fs.Names cwd p parent' name' := by
    refine hnames.keep (· = parent ++ [name]) ?_ ?_
    · intro up last hplace
      exact blunt_of_absent (by rw [hplace, hnode, if_pos rfl])
    · intro place hplace
      exact alikeAt_of_eq (by rw [hnode, if_neg hplace])
  obtain ⟨rfl, rfl⟩ := h.unique hbefore
  rw [hnode, if_pos rfl]

/-- Who is told that something is missing has named nothing that is there. -/
theorem vacant_of_unlink (h : fs.unlink cwd p = .error .noEntry) : fs.Vacant cwd p := by
  intro parent name hnames
  cases hnode : fs.nodeAt? (parent ++ [name]) with
  | none => rfl
  | some node =>
      unfold unlink at h
      rw [show fs.reachParent cwd p = .ok ⟨parent, .name name, false⟩ from hnames] at h
      by_cases hlong : nameLimit < name.utf8ByteSize
      · simp [bind, Except.bind, lookupName, hlong] at h
        exact absurd h (by decide)
      · cases hwritable : fs.writable parent with
        | error e =>
            obtain rfl := eq_of_writable hwritable
            simp [bind, Except.bind, lookupName, hlong, hnode, hwritable] at h
            exact absurd h (by decide)
        | ok u =>
            cases hdirectory : node.isDirectory <;>
              simp [bind, Except.bind, lookupName, hlong, hnode, hwritable, hdirectory, pure,
                Except.pure, throw, throwThe, MonadExceptOf.throw] at h
            exact absurd h (by decide)

/-- **What becomes of a file that is moved.**  It takes the place of what is no directory there.
Moving a file onto itself, under whatever name, does nothing. -/
theorem rename_file_eq_ok {number : Nat} (hsource : fs.Names cwd p parent name)
    (hnode : fs.nodeAt? (parent ++ [name]) = some (.file number))
    (h : fs.rename cwd p q = .ok fs') :
    ∃ parent' name', fs.Names cwd q parent' name' ∧ ¬ nameLimit < name'.utf8ByteSize ∧
      (fs.nodeAt? (parent' ++ [name']) = some (.file number) ∧ fs' = fs ∨
        ¬ fs.HoldsDirectory (parent' ++ [name']) ∧ parent ++ [name] ≠ parent' ++ [name'] ∧
          fs.writable parent' = .ok () ∧
          fs' = (fs.erase (parent ++ [name])).putNode (parent' ++ [name']) (.file number)) := by
  unfold rename at h
  rw [show fs.reachParent cwd p = .ok ⟨parent, .name name, false⟩ from hsource] at h
  obtain ⟨_, hold, h⟩ := bind_eq_ok_iff.1 h
  cases hold
  obtain ⟨⟨parent', last, slash⟩, hnew, h⟩ := bind_eq_ok_iff.1 h
  cases last with
  | name name' =>
      obtain ⟨found, hfound, h⟩ := bind_eq_ok_iff.1 h
      obtain ⟨hname, rfl⟩ := lookupName_eq_ok_iff.1 hfound
      simp only [hnode] at h
      obtain ⟨there, hthere, h⟩ := bind_eq_ok_iff.1 h
      obtain ⟨hname', rfl⟩ := lookupName_eq_ok_iff.1 hthere
      cases slash with
      | true => simp [throw, throwThe, MonadExceptOf.throw] at h
      | false =>
          refine ⟨parent', name', hnew, hname', ?_⟩
          simp only [Bool.or_self, Bool.false_eq_true, if_false] at h
          split at h
          · cases h
          · split at h
            · rename_i hplace
              cases h
              exact .inl ⟨hplace ▸ hnode, rfl⟩
            · rename_i hplace
              split at h
              · rename_i hsame
                cases h
                exact .inl ⟨hsame.1, rfl⟩
              · obtain ⟨⟨⟩, _, h⟩ := bind_eq_ok_iff.1 h
                obtain ⟨⟨⟩, hwritable, h⟩ := bind_eq_ok_iff.1 h
                refine .inr ⟨?_, hplace, hwritable, ?_⟩
                · rintro ⟨mode, time, hdirectory⟩
                  rw [hdirectory] at h
                  cases h
                · split at h
                  · cases h
                  · cases h
                    rfl
  | _ =>
      cases hnode' : fs.lookupName parent name <;> simp [throw, throwThe, MonadExceptOf.throw] at h

/-- Bits for a file that has a name. -/
theorem setMode_of_names {number mode : Nat} (hnames : fs.Names cwd p parent name)
    (hname : ¬ nameLimit < name.utf8ByteSize)
    (hnode : fs.nodeAt? (parent ++ [name]) = some (.file number)) :
    fs.setMode cwd p mode = .ok (fs.changeFile number fun f => { f with mode := mode }) := by
  have hreach := hnames.reach_of_plain hname hnode (by simp)
  have hlocate : fs.locate cwd p = .ok (parent ++ [name]) := by
    unfold locate
    rw [hreach]
    simp only [bind_eq_ok_iff]
    exact ⟨_, rfl, by rw [hnode]; rfl⟩
  unfold setMode
  rw [hlocate]
  simp only [bind, Except.bind, pure, Except.pure, setModeAt, hnode]

/-- A new directory comes where nothing was. -/
theorem makeDirectory_eq_ok {mode : Nat} (h : fs.makeDirectory cwd p mode = .ok fs') :
    ∃ parent name slash, fs.reachParent cwd p = .ok ⟨parent, .name name, slash⟩ ∧
      ¬ nameLimit < name.utf8ByteSize ∧ fs.nodeAt? (parent ++ [name]) = none ∧
      fs' = fs.put (parent ++ [name]) (.directory mode) := by
  unfold makeDirectory at h
  obtain ⟨⟨parent, last, slash⟩, hnamed, h⟩ := bind_eq_ok_iff.1 h
  cases last with
  | name name =>
      obtain ⟨found, hfound, h⟩ := bind_eq_ok_iff.1 h
      obtain ⟨hname, rfl⟩ := lookupName_eq_ok_iff.1 hfound
      cases hnode : fs.nodeAt? (parent ++ [name]) with
      | some node => simp [hnode, throw, throwThe, MonadExceptOf.throw] at h
      | none =>
          simp only [hnode] at h
          obtain ⟨⟨⟩, _, h⟩ := bind_eq_ok_iff.1 h
          cases h
          exact ⟨parent, name, slash, hnamed, hname, hnode, rfl⟩
  | _ => cases h

/-- Nothing can be made under a name that is taken, or that is no name. -/
theorem makeDirectory_of_taken {named : Named} {mode : Nat} (hnamed : fs.reachParent cwd p = .ok named)
    (htaken : ∀ name, named.last = .name name →
      ¬ nameLimit < name.utf8ByteSize ∧ fs.nodeAt? (named.parent ++ [name]) ≠ none) :
    fs.makeDirectory cwd p mode = .error .fileExists := by
  unfold makeDirectory
  rw [hnamed]
  obtain ⟨parent, last, slash⟩ := named
  cases last with
  | name name =>
      obtain ⟨hname, hnode⟩ := htaken name rfl
      obtain ⟨node, hnode⟩ := Option.ne_none_iff_exists'.1 hnode
      simp [bind, Except.bind, lookupName, hname, hnode, throw, throwThe, MonadExceptOf.throw]
  | _ => rfl

/-- The parent of a path without steps is where its walk begins. -/
theorem reachParent_of_bareSteps {time : Int} {mode : Nat} (haccept : acceptable p = .ok ())
    (hsteps : p.bareSteps = []) (hnode : fs.nodeAt? (origin cwd p) = some (.directory mode time)) :
    fs.reachParent cwd p =
      if (Entry.directory mode).allows 1 then .ok ⟨origin cwd p, .root, p.endsWithSlash⟩
      else .error .accessDenied := by
  have hwalk : fs.walk linkLimit (origin cwd p) [] = .ok (origin cwd p) :=
    (Trail.done _).walk (Nat.zero_le _)
  unfold reachParent
  rw [haccept]
  unfold Path.bareSteps at hsteps
  simp only [hsteps, List.dropLast_nil, hwalk, bind, Except.bind, hnode, List.getLast?_nil]
  rfl

/-- A directory that is there is not made again, and nobody says that something is missing. -/
theorem makeDirectory_of_isDirectory (mode : Nat) (h : fs.isDirectory cwd p = true) :
    ∃ e, fs.makeDirectory cwd p mode = .error e ∧ (IoError.os e).isNotFound = false := by
  obtain ⟨mode', hstat⟩ := isDirectory_iff.1 h
  obtain ⟨place, hreach, hentry⟩ := stat_eq_ok_iff.1 hstat
  have hplace : fs.HoldsDirectory place := holdsDirectory_iff.2 ⟨mode', hentry⟩
  obtain ⟨haccept, links, hle, htrail⟩ := reach_eq_ok_iff.1 hreach
  rw [Path.steps_eq] at htrail
  rcases List.eq_nil_or_concat p.bareSteps with hsteps | ⟨first, step, hsteps⟩
  · have horigin : fs.HoldsDirectory (origin cwd p) := by
      rw [hsteps, List.nil_append] at htrail
      split at htrail
      · exact htrail.enters_of_cons.holdsDirectory
      · cases htrail
        exact hplace
    obtain ⟨mode'', time, hnode⟩ := horigin
    have hparent := reachParent_of_bareSteps haccept hsteps hnode
    split at hparent
    · exact ⟨.fileExists, makeDirectory_of_taken hparent (by simp), by decide⟩
    · refine ⟨.accessDenied, ?_, by decide⟩
      unfold makeDirectory
      rw [hparent]
      rfl
  · rw [List.concat_eq_append] at hsteps
    rw [hsteps, List.append_assoc] at htrail
    obtain ⟨m, n, middle, hsum, hleft, hright⟩ := htrail.split (by simp)
    have hparent : fs.reachParent cwd p = .ok ⟨middle, Last.ofStep (some step), p.endsWithSlash⟩ := by
      refine reachParent_eq_ok_iff.2 ⟨haccept, ⟨m, by omega, ?_⟩, hright.enters_of_cons, ?_, rfl⟩
      · rwa [hsteps, List.dropLast_concat]
      · rw [hsteps, List.getLast?_concat]
    refine ⟨.fileExists, makeDirectory_of_taken hparent ?_, by decide⟩
    intro name hlast
    cases step with
    | into n =>
        cases hlast
        refine ⟨hright.name_le, fun hnone => ?_⟩
        exact (blunt_of_absent hnone).not_passed hright hplace
    | _ => cases hlast

end Bootstrap.FileSystem
