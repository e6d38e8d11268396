import Bootstrap.FileSystem.Calls
import Bootstrap.Proofs.FileSystem.Place

/-!
# What changes show

A change of the tree is described by what it does to the nodes and to the files.
What one sees at a place follows from the two.

* `nodeAt?_put_file`, `file?_put_file` — the nodes and files after a file was put
  somewhere;
* `entryAt?_congr` — the same node and the same file show the same entry;
* `read_eq_ok_iff` — what is read is what the entry gives;
* `Kept.stat`, `Kept.read` — what a path leads to stays what it leads to as long as
  nothing that is there goes away;
* `HoldsFile.reach`, `HoldsFile.eq_of_reach` — a path that names a regular file leads
  there and nowhere else.
-/

namespace Bootstrap.FileSystem

variable {fs fs' : FileSystem} {cwd place other : Location} {p : Path} {entry : Entry}

@[simp] theorem nodeAt?_addFile (fs : FileSystem) (content : Bytes) (mode : Nat) (place : Location) :
    (fs.addFile content mode).nodeAt? place = fs.nodeAt? place := rfl

@[simp] theorem nodeAt?_changeFile (fs : FileSystem) (number : Nat) (change : File → File)
    (place : Location) : (fs.changeFile number change).nodeAt? place = fs.nodeAt? place := rfl

@[simp] theorem nodeAt?_appendTo (fs : FileSystem) (number : Nat) (bytes : Bytes)
    (place : Location) : (fs.appendTo number bytes).nodeAt? place = fs.nodeAt? place := rfl

@[simp] theorem file?_erase (fs : FileSystem) (place : Location) (number : Nat) :
    (fs.erase place).file? number = fs.file? number := rfl

@[simp] theorem file?_putNode (fs : FileSystem) (place : Location) (node : Node) (number : Nat) :
    (fs.putNode place node).file? number = fs.file? number := rfl

theorem file?_addFile (fs : FileSystem) (content : Bytes) (mode number : Nat) :
    (fs.addFile content mode).file? number =
      if number = fs.freshNumber then some ⟨content, mode, fs.now⟩ else fs.file? number := by
  unfold file? addFile
  rw [List.lookup_cons]
  by_cases h : number = fs.freshNumber
  · simp [h]
  · have hne : (number == fs.freshNumber) = false := by simpa using h
    simp [hne, h]

/-- No file has the fresh number. -/
theorem file?_freshNumber (fs : FileSystem) : fs.file? fs.freshNumber = none := by
  cases h : fs.file? fs.freshNumber with
  | none => rfl
  | some file =>
      have hle := mem_le_foldl_max (fun x : Nat × File => x.1 + 1) (mem_of_lookup h) 0
      have hlt : fs.freshNumber + 1 ≤ fs.freshNumber :=
        Nat.le_trans hle (le_foldl_max (fun x : Location × Node => x.2.number + 1) fs.nodes _)
      omega

/-- No place shows the file with the fresh number. -/
theorem nodeAt?_ne_freshNumber (fs : FileSystem) (place : Location) :
    fs.nodeAt? place ≠ some (.file fs.freshNumber) := by
  intro h
  have hplace : place ≠ [] := by
    rintro rfl
    cases h
  exact Nat.lt_irrefl _ (fs.number_lt_freshNumber hplace h)

/-- The nodes after a file was put somewhere. -/
theorem nodeAt?_put_file (fs : FileSystem) (hplace : place ≠ []) (content : Bytes) (mode : Nat)
    (other : Location) :
    (fs.put place (.file content mode)).nodeAt? other =
      if other = place then some (.file fs.freshNumber) else fs.nodeAt? other := by
  rw [put, nodeAt?_putNode _ hplace, nodeAt?_addFile]

/-- The files after a file was put somewhere. -/
theorem file?_put_file (fs : FileSystem) (place : Location) (content : Bytes) (mode number : Nat) :
    (fs.put place (.file content mode)).file? number =
      if number = fs.freshNumber then some ⟨content, mode, fs.now⟩ else fs.file? number := by
  rw [put, file?_putNode, file?_addFile]

theorem append_ne_nil (parent : Location) (name : String) : parent ++ [name] ≠ [] := by
  simp

/-- Only the file of a node matters to what is shown of it. -/
theorem shown_congr {node : Node}
    (hfile : ∀ number, node = .file number → fs'.file? number = fs.file? number) :
    fs'.shown node = fs.shown node := by
  cases node with
  | file number => simp [shown, hfile number rfl]
  | _ => rfl

/-- The same node and the same file show the same entry. -/
theorem entryAt?_congr (hnode : fs'.nodeAt? place = fs.nodeAt? place)
    (hfile : ∀ number, fs.nodeAt? place = some (.file number) → fs'.file? number = fs.file? number) :
    fs'.entryAt? place = fs.entryAt? place := by
  unfold entryAt?
  rw [hnode]
  refine Option.bind_congr fun node h => shown_congr ?_
  rintro number rfl
  exact hfile number h

/-- Only a directory shows a directory. -/
theorem holdsDirectory_iff :
    fs.HoldsDirectory place ↔ ∃ mode, fs.entryAt? place = some (.directory mode) := by
  constructor
  · rintro ⟨mode, time, hnode⟩
    exact ⟨mode, by simp [entryAt?, hnode, shown]⟩
  · rintro ⟨mode, hentry⟩
    unfold entryAt? at hentry
    obtain ⟨node, hnode, hshown⟩ := Option.bind_eq_some_iff.1 hentry
    cases node with
    | directory mode' time => exact ⟨mode', time, hnode⟩
    | file number =>
        obtain ⟨file, _, hfile⟩ := Option.map_eq_some_iff.1 hshown
        cases hfile
    | _ => cases hshown

/-- What shows an entry has a node. -/
theorem nodeAt?_of_entryAt? (h : fs.entryAt? place = some entry) :
    ∃ node, fs.nodeAt? place = some node ∧ fs.shown node = some entry :=
  Option.bind_eq_some_iff.1 h

/-- What shows as a file is no link. -/
theorem exists_plain_of_entryAt? {content : Bytes} {mode : Nat}
    (h : fs.entryAt? place = some (.file content mode)) :
    ∃ node, fs.nodeAt? place = some node ∧ ∀ target, node ≠ .link target := by
  obtain ⟨node, hnode, hshown⟩ := nodeAt?_of_entryAt? h
  refine ⟨node, hnode, ?_⟩
  rintro target rfl
  cases hshown

/-- A path has an entry exactly if it leads to a place that shows it. -/
theorem stat_eq_ok_iff :
    fs.stat cwd p = .ok entry ↔
      ∃ place, fs.reach cwd p = .ok place ∧ fs.entryAt? place = some entry := by
  unfold stat
  rw [bind_eq_ok_iff]
  constructor
  · rintro ⟨place, hreach, hentry⟩
    cases h : fs.entryAt? place with
    | none => rw [h] at hentry; cases hentry
    | some found =>
        rw [h] at hentry
        cases hentry
        exact ⟨place, hreach, h⟩
  · rintro ⟨place, hreach, hentry⟩
    exact ⟨place, hreach, by rw [hentry]; rfl⟩

theorem isFile_iff :
    fs.isFile cwd p = true ↔ ∃ content mode, fs.stat cwd p = .ok (.file content mode) := by
  unfold isFile
  cases fs.stat cwd p with
  | error e => simp
  | ok entry => cases entry <;> simp [Entry.isFile]

theorem isDirectory_iff :
    fs.isDirectory cwd p = true ↔ ∃ mode, fs.stat cwd p = .ok (.directory mode) := by
  unfold isDirectory
  cases fs.stat cwd p with
  | error e => simp
  | ok entry => cases entry <;> simp [Entry.isDirectory]

/-- What is read is what the entry gives. -/
theorem read_eq_ok_iff {content : Bytes} :
    fs.read cwd p = .ok content ↔
      ∃ entry, fs.stat cwd p = .ok entry ∧ entry.allows 4 = true ∧
        ((∃ mode, entry = .file content mode) ∨
          content = [] ∧ ((∃ d, d ≠ .terminal ∧ entry = .device d) ∨ ∃ mode, entry = .pipe mode)) := by
  unfold read
  rw [bind_eq_ok_iff]
  constructor
  · rintro ⟨entry, hstat, h⟩
    refine ⟨entry, hstat, ?_⟩
    cases hallows : entry.allows 4 with
    | false => simp [hallows, throw, throwThe, MonadExceptOf.throw] at h
    | true =>
        refine ⟨rfl, ?_⟩
        simp only [hallows, Bool.not_true, Bool.false_eq_true, if_false] at h
        cases entry with
        | file content' mode => cases h; exact .inl ⟨mode, rfl⟩
        | device d =>
            cases d with
            | terminal => cases h
            | _ => cases h; exact .inr ⟨rfl, .inl ⟨_, by simp, rfl⟩⟩
        | pipe mode => cases h; exact .inr ⟨rfl, .inr ⟨mode, rfl⟩⟩
        | _ => cases h
  · rintro ⟨entry, hstat, hallows, h⟩
    refine ⟨entry, hstat, ?_⟩
    simp only [hallows, Bool.not_true, Bool.false_eq_true, if_false]
    rcases h with ⟨mode, rfl⟩ | ⟨rfl, ⟨d, hd, rfl⟩ | ⟨mode, rfl⟩⟩
    · rfl
    · cases d <;> first | rfl | exact (hd rfl).elim
    · rfl

/-- What can be read is no directory. -/
theorem stat_of_read {content : Bytes} (h : fs.read cwd p = .ok content) :
    ∃ entry, fs.stat cwd p = .ok entry ∧ entry.isDirectory = false := by
  obtain ⟨entry, hstat, _, ⟨mode, rfl⟩ | ⟨_, ⟨d, _, rfl⟩ | ⟨mode, rfl⟩⟩⟩ := read_eq_ok_iff.1 h
  · exact ⟨_, hstat, rfl⟩
  · exact ⟨_, hstat, rfl⟩
  · exact ⟨_, hstat, rfl⟩

/-- Nothing that is there goes away or becomes something else. -/
structure Kept (fs fs' : FileSystem) : Prop where
  node : ∀ place node, fs.nodeAt? place = some node → fs'.nodeAt? place = some node
  file : ∀ number file, fs.file? number = some file → fs'.file? number = some file

theorem Kept.enters (h : Kept fs fs') (henters : fs.Enters place) : fs'.Enters place := by
  obtain ⟨mode, time, hnode, hsearch⟩ := henters
  exact ⟨mode, time, h.node _ _ hnode, hsearch⟩

/-- A trail to something that is there stays as long as nothing goes away. -/
theorem Kept.trail {links : Nat} {here : Location} {steps : List PathStep} (hkept : Kept fs fs')
    (h : Trail fs links here steps place) (hplace : fs.nodeAt? place ≠ none) :
    Trail fs' links here steps place := by
  induction h with
  | done here => exact .done here
  | stay henters _ ih => exact .stay (hkept.enters henters) (ih hplace)
  | up henters _ ih => exact .up (hkept.enters henters) (ih hplace)
  | missing _ _ hnone => exact (hplace hnone).elim
  | follow henters hname hlink htarget _ ih =>
      exact .follow (hkept.enters henters) hname (hkept.node _ _ hlink) htarget (ih hplace)
  | enter henters hname hnode hplain _ ih =>
      exact .enter (hkept.enters henters) hname (hkept.node _ _ hnode) hplain (ih hplace)

theorem Kept.shown {node : Node} (hkept : Kept fs fs') (h : fs.shown node = some entry) :
    fs'.shown node = some entry := by
  cases node with
  | file number =>
      obtain ⟨file, hfile, hentry⟩ := Option.map_eq_some_iff.1 h
      exact Option.map_eq_some_iff.2 ⟨file, hkept.file _ _ hfile, hentry⟩
  | _ => exact h

theorem Kept.entryAt? (hkept : Kept fs fs') (h : fs.entryAt? place = some entry) :
    fs'.entryAt? place = some entry := by
  obtain ⟨node, hnode, hshown⟩ := nodeAt?_of_entryAt? h
  exact Option.bind_eq_some_iff.2 ⟨node, hkept.node _ _ hnode, hkept.shown hshown⟩

/-- A path leads to the same place as long as nothing goes away and there is something. -/
theorem Kept.reach (hkept : Kept fs fs') (h : fs.reach cwd p = .ok place)
    (hplace : fs.nodeAt? place ≠ none) : fs'.reach cwd p = .ok place := by
  obtain ⟨haccept, links, hle, htrail⟩ := reach_eq_ok_iff.1 h
  exact reach_eq_ok_iff.2 ⟨haccept, links, hle, hkept.trail htrail hplace⟩

/-- A path names what it named as long as nothing goes away. -/
theorem Kept.names {parent : Location} {name : String} (h : Kept fs fs')
    (hnamed : fs.Names cwd p parent name) :
    fs'.Names cwd p parent name := by
  obtain ⟨haccept, henters, first, hends, links, hle, htrail⟩ := names_iff.1 hnamed
  obtain ⟨mode, time, hnode, _⟩ := henters
  exact names_iff.2 ⟨haccept, h.enters hnamed.enters, first, hends, links, hle,
    h.trail htrail (by simp [hnode])⟩

/-- A path keeps its entry as long as nothing goes away. -/
theorem Kept.stat (hkept : Kept fs fs') (h : fs.stat cwd p = .ok entry) :
    fs'.stat cwd p = .ok entry := by
  obtain ⟨place, hreach, hentry⟩ := stat_eq_ok_iff.1 h
  have hplace : fs.nodeAt? place ≠ none := by
    obtain ⟨node, hnode, _⟩ := nodeAt?_of_entryAt? hentry
    simp [hnode]
  exact stat_eq_ok_iff.2 ⟨place, hkept.reach hreach hplace, hkept.entryAt? hentry⟩

theorem Kept.read {content : Bytes} (hkept : Kept fs fs') (h : fs.read cwd p = .ok content) :
    fs'.read cwd p = .ok content := by
  obtain ⟨entry, hstat, hentry⟩ := read_eq_ok_iff.1 h
  exact read_eq_ok_iff.2 ⟨entry, hkept.stat hstat, hentry⟩

/-! ### Regular files -/

section

variable {parent : Location} {name : String}

/-- There is a regular file at the place. -/
def HoldsFile (fs : FileSystem) (place : Location) : Prop :=
  ∃ content mode, fs.entryAt? place = some (.file content mode)

/-- A path that names a file leads to it. -/
theorem HoldsFile.reach (h : HoldsFile fs (parent ++ [name])) (hnamed : fs.Names cwd p parent name)
    (hshort : ¬ nameLimit < name.utf8ByteSize) : fs.reach cwd p = .ok (parent ++ [name]) := by
  obtain ⟨content, mode, hentry⟩ := h
  obtain ⟨node, hnode, hplain⟩ := exists_plain_of_entryAt? hentry
  exact hnamed.reach_of_plain hshort hnode hplain

/-- The path names a regular file. -/
def NamesFile (fs : FileSystem) (cwd : Location) (p : Path) : Prop :=
  ∃ parent name, fs.Names cwd p parent name ∧ ¬ nameLimit < name.utf8ByteSize ∧
    HoldsFile fs (parent ++ [name])

theorem NamesFile.isFile (h : NamesFile fs cwd p) : fs.isFile cwd p = true := by
  obtain ⟨parent, name, hnamed, hshort, hfile⟩ := h
  obtain ⟨content, mode, hentry⟩ := id hfile
  exact isFile_iff.2 ⟨content, mode,
    stat_eq_ok_iff.2 ⟨_, hfile.reach hnamed hshort, hentry⟩⟩

end

end Bootstrap.FileSystem
