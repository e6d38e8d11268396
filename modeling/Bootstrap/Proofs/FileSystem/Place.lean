import Bootstrap.Proofs.FileSystem.Steps
import Bootstrap.Proofs.FileSystem.Trail

/-!
# The entry that a path names

Calls that remove or move something do not follow a link at the end of a path: they
act on a name in a directory.  `Names` says which name in which directory that is.
What the path leads to, through all links, is found by a trail from there.

* `names_iff` — naming is a trail to the directory and a last step;
* `Names.keep` — a path names the same entry after changes at blunt names;
* `Names.sibling` — texts that differ behind the last slash name entries of one
  directory;
* `Names.isDirectory_directoryOf` — the directory in which a named destination is
  staged is there.
-/

namespace Bootstrap.FileSystem

variable {fs fs' : FileSystem} {cwd parent place : Location} {p q : Path} {name other : String}
variable {first : List PathStep}

/-- The path names an entry: `name` in the directory `parent`, whatever stands there. -/
def Names (fs : FileSystem) (cwd : Location) (p : Path) (parent : Location) (name : String) : Prop :=
  fs.reachParent cwd p = .ok ⟨parent, .name name, false⟩

/-- An `Except` that goes on has come to a value first. -/
theorem bind_eq_ok_iff {ε α β : Type} {x : Except ε α} {f : α → Except ε β} {b : β} :
    (x >>= f) = .ok b ↔ ∃ a, x = .ok a ∧ f a = .ok b := by
  cases x with
  | error e => simp [bind, Except.bind]
  | ok a => simp [bind, Except.bind]

/-- Where a path leads is the end of a trail. -/
theorem reach_eq_ok_iff :
    fs.reach cwd p = .ok place ↔
      acceptable p = .ok () ∧
        ∃ links, links ≤ linkLimit ∧ Trail fs links (origin cwd p) p.steps place := by
  unfold reach
  rw [bind_eq_ok_iff]
  constructor
  · rintro ⟨⟨⟩, haccept, hwalk⟩
    exact ⟨haccept, walk_eq_ok_iff.1 hwalk⟩
  · rintro ⟨haccept, htrail⟩
    exact ⟨(), haccept, walk_eq_ok_iff.2 htrail⟩

/-- The parent of a path is the end of a trail, in a directory that may be searched. -/
theorem reachParent_eq_ok_iff {named : Named} :
    fs.reachParent cwd p = .ok named ↔
      acceptable p = .ok () ∧
        (∃ links, links ≤ linkLimit ∧
          Trail fs links (origin cwd p) p.bareSteps.dropLast named.parent) ∧
        fs.Enters named.parent ∧ named.last = Last.ofStep p.bareSteps.getLast? ∧
        named.slash = p.endsWithSlash := by
  unfold reachParent
  rw [bind_eq_ok_iff]
  constructor
  · rintro ⟨⟨⟩, haccept, hrest⟩
    obtain ⟨parent, hwalk, hrest⟩ := bind_eq_ok_iff.1 hrest
    refine ⟨haccept, ?_⟩
    cases hnode : fs.nodeAt? parent with
    | none => simp [hnode, throw, throwThe, MonadExceptOf.throw] at hrest
    | some node =>
        cases node with
        | directory mode time =>
            cases hsearch : (Entry.directory mode).allows 1 with
            | false => simp [hnode, hsearch, throw, throwThe, MonadExceptOf.throw] at hrest
            | true =>
                simp only [hnode, hsearch, if_true, pure, Except.pure, Except.ok.injEq] at hrest
                subst hrest
                exact ⟨walk_eq_ok_iff.1 hwalk, ⟨mode, time, hnode, hsearch⟩, rfl, rfl⟩
        | _ => simp [hnode, throw, throwThe, MonadExceptOf.throw] at hrest
  · rintro ⟨haccept, htrail, ⟨mode, time, hnode, hsearch⟩, hlast, hslash⟩
    refine ⟨(), haccept, bind_eq_ok_iff.2 ⟨named.parent, walk_eq_ok_iff.2 htrail, ?_⟩⟩
    simp only [hnode, hsearch, if_true, pure, Except.pure, Except.ok.injEq]
    cases named
    simp_all [Path.bareSteps]

theorem ends_of_getLast? (hlast : Last.ofStep p.bareSteps.getLast? = .name name)
    (hslash : p.endsWithSlash = false) : p.Ends p.bareSteps.dropLast name := by
  refine ⟨?_, hslash⟩
  rcases List.eq_nil_or_concat p.bareSteps with hnil | ⟨first, step, hsteps⟩
  · rw [hnil] at hlast
    cases hlast
  · rw [hsteps, List.concat_eq_append, List.getLast?_concat] at hlast
    rw [hsteps, List.concat_eq_append, List.dropLast_concat]
    cases step with
    | into n =>
        cases hlast
        rfl
    | _ => cases hlast

/-- Naming is a trail to the directory and a last step. -/
theorem names_iff :
    fs.Names cwd p parent name ↔
      acceptable p = .ok () ∧ fs.Enters parent ∧ ∃ first, p.Ends first name ∧
        ∃ links, links ≤ linkLimit ∧ Trail fs links (origin cwd p) first parent := by
  unfold Names
  rw [reachParent_eq_ok_iff]
  constructor
  · rintro ⟨haccept, htrail, henters, hlast, hslash⟩
    exact ⟨haccept, henters, _, ends_of_getLast? hlast.symm hslash.symm, htrail⟩
  · rintro ⟨haccept, henters, first, hends, htrail⟩
    refine ⟨haccept, ?_, henters, ?_, hends.noSlash.symm⟩
    · simpa [hends.bare] using htrail
    · simp [hends.bare, Last.ofStep]

theorem Names.enters (h : fs.Names cwd p parent name) : fs.Enters parent := (names_iff.1 h).2.1

/-- A path that leads somewhere names an entry, and its trail ends behind that entry. -/
theorem names_of_reach (hends : p.Ends first name) (h : fs.reach cwd p = .ok place) :
    ∃ parent links, fs.Names cwd p parent name ∧ Trail fs links parent [.into name] place := by
  obtain ⟨haccept, links, hle, htrail⟩ := reach_eq_ok_iff.1 h
  rw [hends.steps] at htrail
  obtain ⟨m, n, parent, hsum, hleft, hright⟩ := htrail.split (by simp)
  exact ⟨parent, n,
    names_iff.2 ⟨haccept, hright.enters_of_cons, first, hends, m, by omega, hleft⟩, hright⟩

/-- A path leads to what its entry is, if that is no link. -/
theorem Names.reach_of_plain {node : Node} (h : fs.Names cwd p parent name)
    (hname : ¬ nameLimit < name.utf8ByteSize) (hnode : fs.nodeAt? (parent ++ [name]) = some node)
    (hplain : ∀ target, node ≠ .link target) : fs.reach cwd p = .ok (parent ++ [name]) := by
  obtain ⟨haccept, henters, first, hends, links, hle, htrail⟩ := names_iff.1 h
  refine reach_eq_ok_iff.2 ⟨haccept, links, hle, ?_⟩
  rw [hends.steps]
  exact htrail.append (.enter henters hname hnode hplain (.done _)) henters

/-- A path names one entry. -/
theorem Names.unique {parent' : Location} {name' : String} (h : fs.Names cwd p parent name)
    (h' : fs.Names cwd p parent' name') : parent = parent' ∧ name = name' := by
  have := h.symm.trans h'
  simpa using this

/-- A directory that a path names is where its steps lead. -/
theorem Names.trail_into (h : fs.Names cwd p parent name) (hends : p.Ends first name)
    (hshort : ¬ nameLimit < name.utf8ByteSize) (hplace : fs.HoldsDirectory (parent ++ [name])) :
    ∃ links, links ≤ linkLimit ∧
      Trail fs links (origin cwd p) (first ++ [.into name]) (parent ++ [name]) := by
  obtain ⟨_, henters, first', hends', links, hle, htrail⟩ := names_iff.1 h
  obtain ⟨rfl, _⟩ := hends.unique hends'
  exact ⟨_, hle, htrail.append (.enter_directory henters hshort hplace) henters⟩

/-- A path names the same entry in a tree that differs only at blunt names. -/
theorem Names.keep (h : fs.Names cwd p parent name) (changed : Location → Prop)
    (hblunt : ∀ parent name, changed (parent ++ [name]) → fs.Blunt parent name)
    (hsame : ∀ place, ¬ changed place → AlikeAt fs fs' place) :
    fs'.Names cwd p parent name := by
  obtain ⟨haccept, henters, first, hends, links, hle, htrail⟩ := names_iff.1 h
  have henters' : fs'.Enters parent := by
    rcases List.eq_nil_or_concat parent with rfl | ⟨up, last, rfl⟩
    · exact enters_root fs'
    · rw [List.concat_eq_append] at henters ⊢
      exact (hsame _ fun hchanged => (hblunt _ _ hchanged).plain henters.holdsDirectory).enters henters
  exact names_iff.2 ⟨haccept, henters', first, hends, links, hle,
    htrail.keep henters.holdsDirectory changed hblunt hsame⟩

/-- Texts that differ only behind the last slash name entries of one directory. -/
theorem Names.sibling (h : fs.Names cwd p parent name) (hp : p.Ends first name)
    (hq : q.Ends first other) (habsolute : q.isAbsolute = p.isAbsolute)
    (haccept : acceptable q = .ok ()) : fs.Names cwd q parent other := by
  obtain ⟨_, henters, first', hends, links, hle, htrail⟩ := names_iff.1 h
  obtain ⟨rfl, _⟩ := hends.unique hp
  refine names_iff.2 ⟨haccept, henters, first', hq, links, hle, ?_⟩
  rwa [origin, habsolute, ← origin]

/-- Steps that stay in place add nothing to a trail. -/
theorem Trail.drop_stays {links count : Nat} {here : Location} {steps : List PathStep}
    (h : Trail fs links here (steps ++ List.replicate count .stay) place) :
    Trail fs links here steps place := by
  induction count with
  | zero => simpa using h
  | succ count ih =>
      rw [List.replicate_succ', ← List.append_assoc] at h
      obtain ⟨m, n, middle, hsum, hleft, hright⟩ := h.split (by simp)
      cases hright with
      | stay _ tail =>
          cases tail
          obtain rfl : links = m := by omega
          exact ih hleft

theorem acceptable_iff :
    acceptable p = .ok () ↔ p.text.isEmpty = false ∧ p.text.utf8ByteSize < pathLimit := by
  unfold acceptable
  cases p.text.isEmpty
  · by_cases h : pathLimit ≤ p.text.utf8ByteSize
    · simp [h]
    · simpa [h] using Nat.lt_of_not_le h
  · simp

theorem acceptable_of_begins {d : Path} (h : acceptable p = .ok ()) (hbegins : d.chars <+: p.chars)
    (hne : d.text.isEmpty = false) : acceptable d = .ok () := by
  obtain ⟨more, hmore⟩ := hbegins
  have htext : p.text = d.text ++ String.ofList more := by
    rw [← String.toList_inj, String.toList_append, String.toList_ofList]
    exact hmore.symm
  rw [acceptable_iff] at h ⊢
  refine ⟨hne, ?_⟩
  have := h.2
  rw [htext, String.utf8ByteSize_append] at this
  omega

theorem isDirectory_of_reach (h : fs.reach cwd p = .ok place) (hplace : fs.HoldsDirectory place) :
    fs.isDirectory cwd p = true := by
  obtain ⟨mode, time, hnode⟩ := hplace
  have hentry : fs.entryAt? place = some (.directory mode) := by
    simp [entryAt?, hnode, shown]
  unfold isDirectory stat
  rw [h]
  simp only [bind, Except.bind, hentry, pure, Except.pure]
  rfl

/-- The directory in which a named destination is staged is the one that holds its entry. -/
theorem Names.reach_directoryOf (h : fs.Names cwd p parent name) :
    fs.reach cwd (Staged.directoryOf p) = .ok parent := by
  obtain ⟨haccept, henters, first, hends, links, hle, htrail⟩ := names_iff.1 h
  rcases Staged.directoryOf_cases hends.bare with
    ⟨rfl, habsolute, hd⟩ | ⟨habsolute, hd, count, rfl⟩ | ⟨habsolute, hbegins, count, rfl⟩
  · rw [hd]
    rw [origin, habsolute] at htrail
    cases htrail
    exact reach_eq_ok_iff.2 ⟨rfl, 0, Nat.zero_le _, .stay henters (.done _)⟩
  · rw [hd]
    rw [origin, habsolute, if_pos rfl] at htrail
    have hstays : Trail fs links [] ([] ++ List.replicate count .stay) parent := htrail
    cases hstays.drop_stays
    exact reach_eq_ok_iff.2 ⟨rfl, 0, Nat.zero_le _, .stay henters (.done _)⟩
  · have hne : (Staged.directoryOf p).text.isEmpty = false := by
      unfold Staged.directoryOf
      cases p.parent? with
      | none => rfl
      | some up => cases hup : up.text.isEmpty <;> simp [hup]
    refine reach_eq_ok_iff.2 ⟨acceptable_of_begins haccept hbegins hne, links, hle, ?_⟩
    rw [origin, habsolute, ← origin]
    exact htrail.drop_stays

theorem Names.isDirectory_directoryOf (h : fs.Names cwd p parent name) :
    fs.isDirectory cwd (Staged.directoryOf p) = true :=
  isDirectory_of_reach h.reach_directoryOf h.enters.holdsDirectory

end Bootstrap.FileSystem
