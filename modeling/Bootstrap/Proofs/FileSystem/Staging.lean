import Bootstrap.FileSystem.Staging
import Bootstrap.Proofs.FileSystem.Calls
import Bootstrap.Proofs.Running

/-!
# Staging files

A staging file has a name that was free and a number that no file had.  So whatever is
written into it is seen under no other name; when it is dropped everything is as
before, and when it is put in place one entry is new.

* `Staged.Holds` — a staging file beside everything that was there;
* `Staged.create_eq_ok`, `Staged.Holds.append`, `Staged.Holds.setMode` — how it comes
  about and what it goes through;
* `Staged.Holds.drop`, `Staged.Holds.persist_eq_ok` — the two ways it ends: `Restored`
  and `Placed`.
-/

namespace Bootstrap

open FileSystem

variable {cwd parent place : Location} {fs before now after : FileSystem} {name : String}
variable {content : Bytes} {mode : Nat} {s : Staged}

/-- The same nodes as before, and the same files but for one that has no name. -/
structure Restored (before after : FileSystem) : Prop where
  node : ∀ place, after.nodeAt? place = before.nodeAt? place
  file : ∀ number, number ≠ before.freshNumber → after.file? number = before.file? number

/-- One place holds a new file, and all others what they held before. -/
structure Replaced (before after : FileSystem) (place : Location) (content : Bytes) (mode : Nat) :
    Prop where
  node : ∀ other, after.nodeAt? other =
    if other = place then some (.file before.freshNumber) else before.nodeAt? other
  file : ∀ number, number ≠ before.freshNumber → after.file? number = before.file? number
  new : ∃ time, after.file? before.freshNumber = some ⟨content, mode, time⟩

/-- A new file is the entry that a path names.  What it replaced was no directory. -/
structure Placed (before after : FileSystem) (cwd : Location) (p : Path) (parent : Location)
    (name : String) (content : Bytes) (mode : Nat) : Prop where
  named : before.Names cwd p parent name
  short : ¬ nameLimit < name.utf8ByteSize
  plain : ¬ before.HoldsDirectory (parent ++ [name])
  writable : before.writable parent = .ok ()
  replaced : Replaced before after (parent ++ [name]) content mode

theorem Restored.refl (fs : FileSystem) : Restored fs fs := ⟨fun _ => rfl, fun _ _ => rfl⟩

/-- Nothing is seen of a staging file that was dropped. -/
theorem Restored.entryAt? (h : Restored before after) (place : Location) :
    after.entryAt? place = before.entryAt? place := by
  refine entryAt?_congr (h.node place) fun number hnode => h.file number ?_
  rintro rfl
  exact before.nodeAt?_ne_freshNumber place hnode

/-- Nothing goes away with a staging file that was dropped. -/
theorem Restored.kept (h : Restored before after) : Kept before after where
  node := fun place _ hnode => (h.node place).trans hnode
  file := by
    intro number file hfile
    refine (h.file number ?_).trans hfile
    rintro rfl
    rw [before.file?_freshNumber] at hfile
    cases hfile

/-- A new file is seen at its place and nowhere else. -/
theorem Replaced.entryAt? (h : Replaced before after place content mode) (other : Location) :
    after.entryAt? other =
      if other = place then some (.file content mode) else before.entryAt? other := by
  have hnode := h.node other
  by_cases hother : other = place
  · obtain ⟨time, hnew⟩ := h.new
    rw [if_pos hother] at hnode ⊢
    simp [FileSystem.entryAt?, hnode, shown, hnew]
  · rw [if_neg hother] at hnode ⊢
    refine entryAt?_congr hnode fun number hfile => h.file number ?_
    rintro rfl
    exact before.nodeAt?_ne_freshNumber other hfile

namespace Staged

/-- A name for a staging file that was free, in a directory whose names may be changed, and a number
that no file had. -/
structure Handle (before : FileSystem) (cwd : Location) (s : Staged) (parent : Location)
    (name : String) : Prop where
  passable : s.path.hasNull = false
  named : before.Names cwd s.path parent name
  short : ¬ nameLimit < name.utf8ByteSize
  free : before.nodeAt? (parent ++ [name]) = none
  writable : before.writable parent = .ok ()
  fresh : s.number = before.freshNumber

/-- **A staging file beside everything that was there.** -/
structure Holds (before now : FileSystem) (cwd : Location) (s : Staged) (parent : Location)
    (name : String) (content : Bytes) (mode : Nat) : Prop
    extends Handle before cwd s parent name where
  node : ∀ place, now.nodeAt? place =
    if place = parent ++ [name] then some (.file s.number) else before.nodeAt? place
  file : ∀ number, number ≠ s.number → now.file? number = before.file? number
  new : ∃ time, now.file? s.number = some ⟨content, mode, time⟩

namespace Holds

theorem node_self (h : Holds before now cwd s parent name content mode) :
    now.nodeAt? (parent ++ [name]) = some (.file s.number) := by
  rw [h.node, if_pos rfl]

theorem node_of_ne (h : Holds before now cwd s parent name content mode)
    (hne : place ≠ parent ++ [name]) : now.nodeAt? place = before.nodeAt? place := by
  rw [h.node, if_neg hne]

/-- The staging file takes nothing away. -/
theorem kept (h : Holds before now cwd s parent name content mode) : Kept before now where
  node := by
    intro place node hnode
    have hne : place ≠ parent ++ [name] := by
      rintro rfl
      rw [h.free] at hnode
      cases hnode
    rw [h.node_of_ne hne, hnode]
  file := by
    intro number file hfile
    have hne : number ≠ s.number := by
      rintro rfl
      rw [h.fresh, before.file?_freshNumber] at hfile
      cases hfile
    rw [h.file number hne, hfile]

/-- What stands anywhere else is seen as before. -/
theorem entryAt?_of_ne (h : Holds before now cwd s parent name content mode)
    (hne : place ≠ parent ++ [name]) : now.entryAt? place = before.entryAt? place := by
  refine entryAt?_congr (h.node_of_ne hne) fun number hnode => h.file number ?_
  rintro rfl
  rw [h.fresh] at hnode
  exact before.nodeAt?_ne_freshNumber place hnode

theorem entryAt?_self (h : Holds before now cwd s parent name content mode) :
    now.entryAt? (parent ++ [name]) = some (.file content mode) := by
  obtain ⟨time, hnew⟩ := h.new
  simp [FileSystem.entryAt?, h.node_self, shown, hnew]

/-- Where steps lead beside the staging file they led before, unless they lead to it. -/
theorem trail_before {links : Nat} {here : Location} {steps : List PathStep}
    (h : Holds before now cwd s parent name content mode)
    (htrail : Trail now links here steps place) (hne : place ≠ parent ++ [name]) :
    Trail before links here steps place := by
  have henters : ∀ {other}, now.Enters other → before.Enters other := by
    intro other henters
    refine AlikeAt.enters (alikeAt_of_eq (Eq.symm ?_)) henters
    refine h.node_of_ne ?_
    rintro rfl
    obtain ⟨_, _, hnode, _⟩ := henters
    rw [h.node_self] at hnode
    cases hnode
  induction htrail with
  | done here => exact .done here
  | stay hhere _ ih => exact .stay (henters hhere) (ih hne)
  | up hhere _ ih => exact .up (henters hhere) (ih hne)
  | missing hhere hname hnone => exact .missing (henters hhere) hname (h.node_of_ne hne ▸ hnone)
  | follow hhere hname hlink htarget _ ih =>
      refine .follow (henters hhere) hname ?_ htarget (ih hne)
      rw [← hlink, h.node_of_ne]
      rintro heq
      rw [heq, h.node_self] at hlink
      cases hlink
  | @enter _ here _ next node rest hhere hname hnode hplain tail ih =>
      refine .enter (henters hhere) hname ?_ hplain (ih hne)
      rw [← hnode, h.node_of_ne]
      -- Nothing lies behind the staging file, so only a trail that ends there passes it.
      rintro heq
      cases rest with
      | nil =>
          cases tail
          exact hne heq
      | cons step rest =>
          obtain ⟨_, _, hdirectory, _⟩ := tail.enters_of_cons
          rw [heq, h.node_self] at hdirectory
          cases hdirectory

/-- What a path leads to beside the staging file it led to before, or it is the staging file. -/
theorem stat_before {p : Path} {here : Location} {entry : Entry}
    (h : Holds before now cwd s parent name content mode) (hstat : now.stat here p = .ok entry) :
    before.stat here p = .ok entry ∨
      now.reach here p = .ok (parent ++ [name]) ∧ entry = .file content mode := by
  obtain ⟨place, hreach, hentry⟩ := stat_eq_ok_iff.1 hstat
  by_cases hplace : place = parent ++ [name]
  · subst hplace
    rw [h.entryAt?_self] at hentry
    cases hentry
    exact .inr ⟨hreach, rfl⟩
  · obtain ⟨haccept, links, hle, htrail⟩ := reach_eq_ok_iff.1 hreach
    rw [h.entryAt?_of_ne hplace] at hentry
    exact .inl (stat_eq_ok_iff.2 ⟨place, reach_eq_ok_iff.2
      ⟨haccept, links, hle, h.trail_before htrail hplace⟩, hentry⟩)

/-- What a path named before, it names beside the staging file. -/
theorem names {p : Path} {parent' : Location} {name' : String}
    (h : Holds before now cwd s parent name content mode)
    (hnames : before.Names cwd p parent' name') : now.Names cwd p parent' name' := by
  refine hnames.keep (· = parent ++ [name]) ?_ ?_
  · intro up last hplace
    exact blunt_of_absent (hplace ▸ h.free)
  · intro place hplace
    exact alikeAt_of_eq (h.node_of_ne hplace)

/-- What a path names beside the staging file, it named before. -/
theorem names_before {p : Path} {parent' : Location} {name' : String}
    (h : Holds before now cwd s parent name content mode)
    (hnames : now.Names cwd p parent' name') : before.Names cwd p parent' name' := by
  refine hnames.keep (· = parent ++ [name]) ?_ ?_
  · intro up last hplace
    exact blunt_of_file (hplace ▸ h.node_self)
  · intro place hplace
    exact alikeAt_of_eq (h.node_of_ne hplace).symm

/-- A directory beside the staging file is as it was. -/
theorem node_of_enters (h : Holds before now cwd s parent name content mode)
    (henters : now.Enters place) : now.nodeAt? place = before.nodeAt? place := by
  refine h.node_of_ne ?_
  rintro rfl
  obtain ⟨_, _, hnode, _⟩ := henters
  rw [h.node_self] at hnode
  cases hnode

/-- A change of the file under its number is a change of the staging file alone. -/
theorem change {content' : Bytes} {mode' : Nat} {change : File → File}
    (h : Holds before now cwd s parent name content mode)
    (hchange : ∀ time, ∃ time', change ⟨content, mode, time⟩ = ⟨content', mode', time'⟩) :
    Holds before (now.changeFile s.number change) cwd s parent name content' mode' where
  toHandle := h.toHandle
  node := h.node
  file := by
    intro number hne
    rw [file?_changeFile, h.file number hne]
    cases before.file? number <;> simp [hne]
  new := by
    obtain ⟨time, hnew⟩ := h.new
    obtain ⟨time', htime'⟩ := hchange time
    exact ⟨time', by rw [file?_changeFile, hnew]; simp [htime']⟩

/-- Writing goes behind what the staging file holds. -/
theorem append (h : Holds before now cwd s parent name content mode) (more : Bytes) :
    ∃ now', (s.append more).result cwd now = (.ok (), now') ∧
      Holds before now' cwd s parent name (content ++ more) mode := by
  refine ⟨now.appendTo s.number more, rfl, ?_⟩
  exact h.change fun _ => ⟨now.now, rfl⟩

/-- The staging file can be given bits. -/
theorem setMode (h : Holds before now cwd s parent name content mode) (mode' : Nat) :
    ∃ now', (s.setMode mode').result cwd now = (.ok (), now') ∧
      Holds before now' cwd s parent name content mode' := by
  refine ⟨now.changeFile s.number fun f => { f with mode := mode' }, ?_,
    h.change fun time => ⟨time, rfl⟩⟩
  unfold Staged.setMode
  rw [FileOp.result_change, setMode_of_names (h.names h.named) h.short h.node_self]

/-- **A staging file that is dropped leaves nothing behind.** -/
theorem drop (h : Holds before now cwd s parent name content mode) :
    ∃ after, s.drop.result cwd now = (.ok (), after) ∧ Restored before after := by
  have hwritable : now.writable parent = .ok () := by
    have hparent := h.node_of_enters (h.names h.named).enters
    rw [writable_congr (alikeAt_of_eq hparent), h.writable]
  have hunlink : now.unlink cwd s.path = .ok (now.erase (parent ++ [name])) :=
    unlink_eq_ok_iff.2 ⟨parent, name, _, h.names h.named, h.short, h.node_self, rfl, hwritable, rfl⟩
  refine ⟨now.erase (parent ++ [name]), ?_, ?_, ?_⟩
  · unfold Staged.drop FileOp.unlink
    rw [FileOp.result_ignore, FileOp.result_checkPath_bind, h.passable, FileOp.result_change,
      hunlink]
    rfl
  · intro place
    rw [nodeAt?_erase _ (by simp)]
    by_cases hplace : place = parent ++ [name]
    · rw [if_pos hplace, hplace, h.free]
    · rw [if_neg hplace, h.node_of_ne hplace]
  · intro number hne
    rw [file?_erase, h.file number (by rwa [h.fresh])]

/-- The staging file has no other name. -/
theorem eq_of_number (h : Holds before now cwd s parent name content mode)
    (hnode : now.nodeAt? place = some (.file s.number)) : place = parent ++ [name] := by
  refine Decidable.byContradiction fun hne => ?_
  rw [h.node_of_ne hne, h.fresh] at hnode
  exact before.nodeAt?_ne_freshNumber _ hnode

/-- A staging file whose own name is the destination is in place. -/
theorem persist_self {parent' : Location} {name' : String}
    (h : Holds before now cwd s parent name content mode)
    (hsame : now.nodeAt? (parent' ++ [name']) = some (.file s.number)) :
    ¬ before.HoldsDirectory (parent' ++ [name']) ∧ before.writable parent' = .ok () ∧
      Replaced before now (parent' ++ [name']) content mode := by
  obtain ⟨rfl, hname⟩ := List.append_inj' (h.eq_of_number hsame) rfl
  rw [hname]
  refine ⟨?_, h.writable, ?_⟩
  · rintro ⟨_, _, hnode⟩
    rw [h.free] at hnode
    cases hnode
  · constructor <;> rw [← h.fresh]
    · exact h.node
    · exact h.file
    · exact h.new

/-- A staging file that is moved over something else is in place. -/
theorem persist_over {destination : Path} {parent' : Location} {name' : String}
    (h : Holds before now cwd s parent name content mode)
    (hnames : now.Names cwd destination parent' name')
    (hplain : ¬ now.HoldsDirectory (parent' ++ [name']))
    (hne : parent ++ [name] ≠ parent' ++ [name']) (hwritable : now.writable parent' = .ok ()) :
    ¬ before.HoldsDirectory (parent' ++ [name']) ∧ before.writable parent' = .ok () ∧
      Replaced before
        ((now.erase (parent ++ [name])).putNode (parent' ++ [name']) (.file s.number))
        (parent' ++ [name']) content mode := by
  refine ⟨?_, ?_, ?_, ?_, ?_⟩
  · rintro ⟨mode, time, hnode⟩
    exact hplain ⟨mode, time, by rw [h.node_of_ne hne.symm, hnode]⟩
  · rw [← hwritable, writable_congr (alikeAt_of_eq (h.node_of_enters hnames.enters))]
  · intro other
    rw [nodeAt?_putNode _ (by simp), nodeAt?_erase _ (by simp), h.fresh]
    by_cases hother : other = parent' ++ [name']
    · rw [if_pos hother, if_pos hother]
    · rw [if_neg hother, if_neg hother]
      by_cases hstaged : other = parent ++ [name]
      · rw [if_pos hstaged, hstaged, h.free]
      · rw [if_neg hstaged, h.node_of_ne hstaged]
  · intro number hnumber
    rw [file?_putNode, file?_erase, h.file number (by rwa [h.fresh])]
  · rw [← h.fresh]
    exact h.new

/-- **A staging file that is put in place** is the one entry that is new.  It takes the place of
what is no directory, in a directory whose names may be changed. -/
theorem persist_eq_ok {destination : Path} (h : Holds before now cwd s parent name content mode)
    (hpersist : (s.persist destination).result cwd now = (.ok (), after)) :
    ∃ parent' name', Placed before after cwd destination parent' name' content mode := by
  unfold persist at hpersist
  rw [FileOp.result_change] at hpersist
  cases hnull : destination.hasNull with
  | true => simp [hnull] at hpersist
  | false =>
      simp only [hnull, Bool.false_eq_true, if_false] at hpersist
      cases hrename : now.rename cwd s.path destination with
      | error e => simp [hrename] at hpersist
      | ok moved =>
          simp only [hrename, Prod.mk.injEq, true_and] at hpersist
          subst hpersist
          obtain ⟨parent', name', hnames, hshort, hmoved⟩ :=
            rename_file_eq_ok (h.names h.named) h.node_self hrename
          have hplaced : ¬ before.HoldsDirectory (parent' ++ [name']) ∧
              before.writable parent' = .ok () ∧
              Replaced before moved (parent' ++ [name']) content mode := by
            rcases hmoved with ⟨hsame, rfl⟩ | ⟨hplain, hne, hwritable, rfl⟩
            · exact h.persist_self hsame
            · exact h.persist_over hnames hplain hne hwritable
          exact ⟨parent', name', h.names_before hnames, hshort, hplaced.1, hplaced.2.1, hplaced.2.2⟩

end Holds

/-- A staging file that cannot be put in place is still there. -/
theorem persist_eq_error {destination : Path} {e : IoError}
    (h : (s.persist destination).result cwd now = (.error e, after)) : after = now := by
  unfold persist at h
  rw [FileOp.result_change] at h
  split at h
  · cases h
  · cases h
    rfl

/-- What the path of a directory comes to that means the same from everywhere. -/
theorem fromRoot_eq_ok {directory base : Path} {cwd : Location} {fs fs' : FileSystem}
    (h : (fromRoot directory).result cwd fs = (.ok base, fs')) :
    fs' = fs ∧ (directory.isAbsolute = true ∧ base = directory ∨
      directory.isAbsolute = false ∧ base = (pathOf cwd).join directory) := by
  unfold fromRoot at h
  cases habsolute : directory.isAbsolute with
  | true =>
      rw [habsolute, if_pos rfl] at h
      cases h
      exact ⟨rfl, .inl ⟨rfl, rfl⟩⟩
  | false =>
      rw [habsolute, if_neg (by decide)] at h
      obtain ⟨here, middle, hlook, h⟩ := FileOp.result_bind_eq_ok_iff.1 h
      rw [FileOp.result_look] at hlook
      unfold FileSystem.currentDirectory at hlook
      split at hlook
      · cases hlook
        cases h
        exact ⟨rfl, .inr ⟨rfl, rfl⟩⟩
      · cases hlook

theorem looks_fromRoot (directory : Path) : (fromRoot directory).Looks := by
  unfold fromRoot
  split
  · exact FileOp.looks_pure _
  · exact (FileOp.looks_look _).bind fun _ => FileOp.looks_pure _

theorem createEmpty_eq_ok {path : Path}
    (h : (createEmpty path).result cwd before = (.ok (), now)) :
    ∃ parent name, Holds before now cwd ⟨path, before.freshNumber⟩ parent name [] stagingMode := by
  unfold createEmpty at h
  rw [FileOp.result_checkPath_bind, FileOp.result_change] at h
  cases hnull : path.hasNull with
  | true => simp [hnull] at h
  | false =>
      cases hcreate : before.createNew cwd path stagingMode with
      | error e => simp [hnull, hcreate] at h
      | ok created =>
          simp only [hnull, hcreate, Bool.false_eq_true, if_false, Prod.mk.injEq, true_and] at h
          obtain ⟨parent, name, hnamed, hshort, hfree, hwritable, rfl⟩ :=
            createNew_eq_ok_iff.1 hcreate
          subst h
          refine ⟨parent, name, ⟨hnull, hnamed, hshort, hfree, hwritable, rfl⟩, ?_, ?_, ?_⟩
          · exact nodeAt?_put_file _ (by simp) _ _
          · intro number hne
            rw [file?_put_file, if_neg hne]
          · exact ⟨before.now, by rw [file?_put_file, if_pos rfl]⟩

theorem createEmpty_eq_error {path : Path} {e : IoError}
    (h : (createEmpty path).result cwd fs = (.error e, after)) : after = fs := by
  unfold createEmpty at h
  rw [FileOp.result_checkPath_bind, FileOp.result_change] at h
  split at h
  · cases h
    rfl
  · split at h
    · cases h
    · cases h
      rfl

/-- A staging file in a directory, or nothing new. -/
theorem createIn_eq_ok {directory : Path}
    (h : (createIn directory).result cwd before = (.ok s, now)) :
    ∃ parent name, Holds before now cwd s parent name [] stagingMode := by
  unfold createIn at h
  rw [FileOp.result_bind_of_ok FileOp.result_current, FileOp.result_bind_of_ok FileOp.result_here,
    FileOp.result_bind_of_ok FileOp.result_attempt] at h
  rcases hcreate : (createEmpty (candidate before cwd directory)).result cwd before with
    ⟨e | ⟨⟩, now'⟩
  · rw [hcreate] at h
    cases h
  · rw [hcreate] at h
    cases h
    exact createEmpty_eq_ok hcreate

theorem createIn_eq_error {directory : Path} {e : IoError}
    (h : (createIn directory).result cwd fs = (.error e, after)) : after = fs := by
  unfold createIn at h
  rw [FileOp.result_bind_of_ok FileOp.result_current, FileOp.result_bind_of_ok FileOp.result_here,
    FileOp.result_bind_of_ok FileOp.result_attempt] at h
  rcases hcreate : (createEmpty (candidate fs cwd directory)).result cwd fs with ⟨e' | ⟨⟩, now'⟩
  · rw [hcreate] at h
    cases h
    exact createEmpty_eq_error hcreate
  · rw [hcreate] at h
    cases h

/-- A staging file comes about behind the directories that it lies in. -/
theorem create_eq_ok {destination : Path}
    (h : (create destination).result cwd fs = (.ok s, now)) :
    ∃ made parent name,
      (FileOp.makeDirectories (directoryOf destination)).result cwd fs = (.ok (), made) ∧
        Holds made now cwd s parent name [] stagingMode := by
  unfold create at h
  obtain ⟨_, made, hmade, hrest⟩ := FileOp.result_bind_eq_ok_iff.1 h
  obtain ⟨base, made', hbase, hcreate⟩ := FileOp.result_bind_eq_ok_iff.1 hrest
  obtain rfl : made' = made := by
    have := looks_fromRoot (directoryOf destination) cwd made
    rwa [hbase] at this
  obtain ⟨parent, name, hholds⟩ := createIn_eq_ok hcreate
  exact ⟨_, parent, name, hmade, hholds⟩

/-- A candidate is a mark and a number of at least six digits. -/
theorem toList_stagingName (k : Nat) :
    (stagingName k).toList = '.' :: 't' :: 'm' :: 'p' ::
      (List.replicate (6 - (Nat.toDigits 10 k).length) '0' ++ Nat.toDigits 10 k) := by
  have htext : (stagingName k).toList = ".tmp".toList ++
      List.replicate (6 - (Nat.toDigits 10 k).length) '0' ++ Nat.toDigits 10 k :=
    String.toList_ofList
  rw [htext]
  simp

/-- Every name for a staging file is one of the candidates. -/
theorem exists_freeName (fs : FileSystem) (directory : Location) :
    ∃ k, fs.freeName directory = stagingName k := by
  have hname : fs.freeName directory =
      (((List.range (fs.nodes.length + 1)).map stagingName).find? fun name =>
        (fs.nodeAt? (directory ++ [name])).isNone).getD (stagingName 0) := rfl
  rw [hname]
  cases hfind : ((List.range (fs.nodes.length + 1)).map stagingName).find? fun name =>
      (fs.nodeAt? (directory ++ [name])).isNone with
  | none => exact ⟨0, rfl⟩
  | some name =>
      obtain ⟨k, _, hk⟩ := List.mem_map.1 (List.mem_of_find?_eq_some hfind)
      exact ⟨k, hk.symm⟩

/-- A staging file lies in the directory of its destination, under one of the candidates. -/
theorem create_path {destination : Path}
    (h : (create destination).result cwd fs = (.ok s, now)) :
    ∃ made made' base k,
      (fromRoot (directoryOf destination)).result cwd made = (.ok base, made') ∧
        s.path = Path.push base (stagingName k) := by
  unfold create at h
  obtain ⟨_, made, _, hrest⟩ := FileOp.result_bind_eq_ok_iff.1 h
  obtain ⟨base, made', hbase, hcreate⟩ := FileOp.result_bind_eq_ok_iff.1 hrest
  unfold createIn at hcreate
  rw [FileOp.result_bind_of_ok FileOp.result_current, FileOp.result_bind_of_ok FileOp.result_here,
    FileOp.result_bind_of_ok FileOp.result_attempt] at hcreate
  have hpath : s.path = candidate made' cwd base := by
    split at hcreate <;> cases hcreate
    rfl
  rw [hpath]
  unfold candidate
  split
  · obtain ⟨k, hk⟩ := exists_freeName made' _
    exact ⟨made, made', base, k, hbase, by rw [hk]⟩
  · exact ⟨made, made', base, 0, hbase, rfl⟩

/-- Where no staging file comes about, at most directories do. -/
theorem create_eq_error {destination : Path} {e : IoError}
    (h : (create destination).result cwd fs = (.error e, after)) :
    ((FileOp.makeDirectories (directoryOf destination)).result cwd fs).2 = after := by
  unfold create at h
  rcases FileOp.result_bind_eq_error_iff.1 h with hmade | ⟨_, made, hmade, h⟩
  · rw [hmade]
  rw [hmade]
  have hlooks := looks_fromRoot (directoryOf destination) cwd made
  rcases FileOp.result_bind_eq_error_iff.1 h with hbase | ⟨base, made', hbase, h⟩
  · rw [hbase] at hlooks
    exact hlooks.symm
  · rw [hbase] at hlooks
    exact (hlooks.symm.trans (createIn_eq_error h).symm)

end Staged

end Bootstrap
