import Bootstrap.Proofs.Artifact.Content
import Bootstrap.Proofs.FileSystem.Instants

/-!
# Nobody sees half a file

Whoever looks at the entry that an operation replaces sees what was there before or the new
file as it shall be, at every instant and whatever comes of the operation.  There are two
oddities, and both can be told from the text of the destination: a path that comes back through
its own last name, as in `x/../x`, has a directory made there, which no file replaces; and a
destination that has the name of its own staging file is that file.

* `Staged.SeenAt` — what can be seen of the destination at an instant;
* `ReplacesAtomically`, `DropsAtomically` — what is said of the operations;
* `replacing_atomic` — **all operations that replace a file do it at once**;
* `detour_makes_directory` — a destination that becomes a directory.
-/

namespace Bootstrap

open FileSystem

variable {ε : Type} {cwd parent : Location} {destination source : Path} {before now : FileSystem}
variable {s : Staged} {name : String} {content : Bytes} {mode : Nat} {wanted : Bytes → Nat → Prop}

namespace Staged

/-- What a copy of `source` holds: the content and the bits that were there to be read.  A source that
leads nowhere until there is a staging file leads to the staging file. -/
def CopyOf (cwd : Location) (source destination : Path) (before : FileSystem) (content : Bytes)
    (mode : Nat) : Prop :=
  ((ground destination cwd before).read cwd source = .ok content ∧
      ∃ entry, (ground destination cwd before).stat cwd source = .ok entry ∧ entry.mode = mode) ∨
    (∀ entry, (ground destination cwd before).stat cwd source ≠ .ok entry) ∧
      content = [] ∧ mode = stagingMode ∧
      ∃ now s parent name, Filled cwd destination before s parent name [] stagingMode now ∧
        now.reach cwd source = .ok (parent ++ [name])

/-- Writes one part behind the other. -/
def appendAll (s : Staged) : List Bytes → FileOp IoError Unit
  | [] => pure ()
  | part :: rest => do
      s.append part
      s.appendAll rest

/-- A staging file that is written in parts and put in place. -/
def persisted (destination : Path) (parts : List Bytes) : FileOp IoError Unit :=
  during destination fun s => do
    s.appendAll parts
    s.persist destination

/-- A staging file that is written in parts and dropped. -/
def dropped (destination : Path) (parts : List Bytes) : FileOp IoError Unit := do
  let s ← create destination
  s.appendAll parts
  s.drop

theorem goes_appendAll (h : Filled cwd destination before s parent name content mode now)
    (parts : List Bytes) :
    (s.appendAll parts).Goes (Instant cwd destination before wanted) (fun _ _ => False)
      (fun _ after => Filled cwd destination before s parent name (content ++ parts.flatten) mode after)
      cwd now := by
  induction parts generalizing content now with
  | nil => exact FileOp.goes_pure (by simpa using h)
  | cons part rest ih =>
      refine (goes_append h part).bind fun _ middle hfilled => ?_
      rw [List.flatten_cons, ← List.append_assoc]
      exact ih hfilled

theorem goes_fill (h : Filled cwd destination before s parent name [] stagingMode now)
    (content : Bytes) :
    (fill content destination s).Goes
      (Instant cwd destination before fun c m => c = content ∧ m = stagingMode)
      (fun _ after => Still cwd destination before s parent name after)
      (fun _ after => ∃ up last c m, (c = content ∧ m = stagingMode) ∧
        Placed (ground destination cwd before) after cwd destination up last c m) cwd now := by
  refine ((goes_append h content).mono nofun fun _ _ hfilled => hfilled).bind fun _ middle hfilled => ?_
  exact goes_persist hfilled ⟨rfl, rfl⟩

/-- **Copying** holds what the source held when it was read. -/
theorem goes_copy (h : Filled cwd destination before s parent name [] stagingMode now) (source : Path) :
    (copy source destination s).Goes
      (Instant cwd destination before (CopyOf cwd source destination before))
      (fun _ after => Still cwd destination before s parent name after)
      (fun _ after => ∃ up last c m, CopyOf cwd source destination before c m ∧
        Placed (ground destination cwd before) after cwd destination up last c m) cwd now := by
  have hlook : (FileOp.read source).Goes
      (Instant cwd destination before (CopyOf cwd source destination before))
      (fun _ after => Still cwd destination before s parent name after)
      (fun content after => after = now ∧ now.read cwd source = .ok content) cwd now :=
    FileOp.goes_of_looks (FileOp.silent_read source) (FileOp.looks_read source)
      (fun _ hread => ⟨rfl, (FileOp.result_read_eq_ok_iff.1 hread).2.1⟩) fun _ => ⟨_, _, h⟩
  refine hlook.bind ?_
  rintro content _ ⟨rfl, hread⟩
  refine ((goes_append h content).mono nofun fun _ _ hfilled => hfilled).bind fun _ filled hfilled => ?_
  have hlook' : (FileOp.stat source).Goes
      (Instant cwd destination before (CopyOf cwd source destination before))
      (fun _ after => Still cwd destination before s parent name after)
      (fun entry after => after = filled ∧ filled.stat cwd source = .ok entry) cwd filled :=
    FileOp.goes_of_looks (FileOp.silent_stat source) (FileOp.looks_stat source)
      (fun _ hstat => ⟨rfl, (FileOp.result_stat_eq_ok_iff.1 hstat).2.1⟩) fun _ => ⟨_, _, hfilled⟩
  refine hlook'.bind ?_
  rintro entry _ ⟨rfl, hstat⟩
  refine ((goes_setMode hfilled entry.mode).mono nofun fun _ _ hready => hready).bind
    fun _ ready hready => goes_persist hready ?_
  obtain ⟨found, hfound, hallows, hcontent⟩ := read_eq_ok_iff.1 hread
  cases hmade : (ground destination cwd before).stat cwd source with
  | ok there =>
      -- What was there beside the staging file is what was there before it.
      obtain rfl := Except.ok.inj ((h.1.kept.stat hmade).symm.trans hfound)
      obtain rfl := Except.ok.inj ((hfilled.1.kept.stat hmade).symm.trans hstat)
      exact .inl ⟨read_eq_ok_iff.2 ⟨_, hmade, hallows, hcontent⟩, _, hmade, rfl⟩
  | error e =>
      obtain ⟨hreach, rfl⟩ := (h.1.stat_before hfound).resolve_left (by simp [hmade])
      obtain ⟨_, rfl⟩ := (hfilled.1.stat_before hstat).resolve_left (by simp [hmade])
      have hnothing : content = [] := by
        rcases hcontent with ⟨mode, heq⟩ | ⟨hnil, _⟩
        · cases heq
          rfl
        · exact hnil
      exact .inr ⟨by simp [hmade], by simpa using hnothing, rfl, _, s, parent, name, h, hreach⟩

/-- **What can be seen of the destination** at an instant. -/
inductive SeenAt (cwd : Location) (destination : Path) (before now : FileSystem)
    (wanted : Bytes → Nat → Prop) (parent : Location) (name : String) : Prop
  /-- What was there before. -/
  | old (same : now.entryAt? (parent ++ [name]) = before.entryAt? (parent ++ [name]))
  /-- The new file, complete. -/
  | new {content : Bytes} {mode : Nat} (complete : wanted content mode)
      (there : now.entryAt? (parent ++ [name]) = some (.file content mode))
  /-- A directory where nothing was, on the way to the destination itself. -/
  | detour (absent : before.entryAt? (parent ++ [name]) = none)
      (directory : now.HoldsDirectory (parent ++ [name]))
      (stays : (ground destination cwd before).HoldsDirectory (parent ++ [name]))
      (way : ∃ q ∈ (directoryOf destination).ancestors,
        (ground destination cwd before).reach cwd q = .ok (parent ++ [name]))
  /-- The staging file itself, which has drawn the name of the destination. -/
  | own {s : Staged} {content : Bytes} {mode : Nat}
      (holds : s.Holds (ground destination cwd before) now cwd parent name content mode)
      (drawn : ∃ k, name = stagingName k)

/-- Where the destination is as it was when all directories were there, it is as before or a
directory. -/
theorem seenAt_of_ground {other : FileSystem} (hmore : Kept other (ground destination cwd before))
    (hother : FurnishedOn (directoryOf destination).ancestors cwd before other)
    (hsame : now.entryAt? (parent ++ [name]) = other.entryAt? (parent ++ [name])) :
    SeenAt cwd destination before now wanted parent name := by
  rcases hother.entry (parent ++ [name]) with hold | ⟨habsent, hdirectory, q, hq, hreach⟩
  · exact .old (hsame.trans hold)
  · obtain ⟨mode, hmode⟩ := holdsDirectory_iff.1 hdirectory
    obtain ⟨bits, time, hnode⟩ := hdirectory
    exact .detour habsent (holdsDirectory_iff.2 ⟨mode, hsame.trans hmode⟩)
      ⟨bits, time, hmore.node _ _ hnode⟩ ⟨q, hq, hmore.reach hreach (by simp [hnode])⟩

/-- **At every instant the destination is whole.** -/
theorem Instant.seenAt (h : Instant cwd destination before wanted now)
    (hnamed : (ground destination cwd before).Names cwd destination parent name) :
    SeenAt cwd destination before now wanted parent name := by
  have hground := furnishedOn_ground destination cwd before
  have hkept : Kept (ground destination cwd before) (ground destination cwd before) :=
    ⟨fun _ _ hnode => hnode, fun _ _ hfile => hfile⟩
  cases h with
  | furnishing made more => exact seenAt_of_ground more.kept made rfl
  | @staging s up last _ _ holds drawn =>
      by_cases hown : parent ++ [name] = up ++ [last]
      · obtain ⟨rfl, hname⟩ := List.append_inj' hown rfl
        cases hname
        exact .own holds drawn
      · exact seenAt_of_ground hkept hground (holds.entryAt?_of_ne hown)
  | placed placed complete =>
      obtain ⟨rfl, rfl⟩ := placed.named.unique hnamed
      exact .new complete (by rw [placed.replaced.entryAt?, if_pos rfl])
  | restored restored => exact seenAt_of_ground hkept hground (restored.entryAt? _)

end Staged

open Staged

/-- **The operation replaces the destination at once**, by a file that is wanted. -/
structure ReplacesAtomically (op : FileOp ε Unit) (cwd : Location) (destination : Path)
    (before : FileSystem) (wanted : Bytes → Nat → Prop) : Prop where
  /-- Nobody sees half a file. -/
  instants : ∀ now ∈ (op.run cwd before).seen, ∀ parent name,
    (ground destination cwd before).Names cwd destination parent name →
      SeenAt cwd destination before now wanted parent name
  /-- Where the destination has become a directory, the operation fails. -/
  detours : ∀ now ∈ (op.run cwd before).seen, ∀ parent name,
    (ground destination cwd before).Names cwd destination parent name →
      now.HoldsDirectory (parent ++ [name]) → before.entryAt? (parent ++ [name]) = none →
        ∃ e, (op.run cwd before).outcome = .error e
  /-- At a good end the new file is in place, whatever was there, and nothing else has changed. -/
  ended : ∀ after, op.result cwd before = (.ok (), after) →
    FurnishedOn (directoryOf destination).ancestors cwd before (ground destination cwd before) ∧
      ∃ parent name content mode, wanted content mode ∧
        Placed (ground destination cwd before) after cwd destination parent name content mode
  /-- At a bad end nothing has changed. -/
  failed : ∀ e after, op.result cwd before = (.error e, after) →
    LeavesNothing cwd destination before after

/-- What goes through these states replaces its destination at once. -/
theorem ReplacesAtomically.of_goes {op : FileOp ε Unit}
    (h : op.Goes (Instant cwd destination before wanted)
      (fun _ after => LeavesNothing cwd destination before after)
      (fun _ after => ∃ parent name content mode, wanted content mode ∧
        Placed (ground destination cwd before) after cwd destination parent name content mode)
      cwd before) : ReplacesAtomically op cwd destination before wanted where
  instants := fun now hnow parent name hnamed => (h.seen now hnow).seenAt hnamed
  detours := by
    intro now hnow parent name hnamed hdirectory habsent
    cases houtcome : (op.run cwd before).outcome with
    | error e => exact ⟨e, rfl⟩
    | ok ended =>
        obtain ⟨mode, hmode⟩ := holdsDirectory_iff.1 hdirectory
        obtain ⟨_, _, _, _, _, hplaced⟩ := h.ended ended _ (Prod.ext houtcome rfl)
        obtain ⟨rfl, rfl⟩ := hplaced.named.unique hnamed
        cases (h.seen now hnow).seenAt hnamed with
        | old same => simp [same, habsent] at hmode
        | new _ there => simp [there] at hmode
        | detour _ _ stays _ => exact (hplaced.plain stays).elim
        | own holds _ => simp [holds.entryAt?_self] at hmode
  ended := fun after hresult => ⟨furnishedOn_ground destination cwd before, h.ended () after hresult⟩
  failed := h.failed

/-- An operation on a staging file that fills it and puts it in place. -/
theorem ReplacesAtomically.of_during {body : Staged → FileOp IoError Unit}
    (hbody : ∀ s parent name now, Filled cwd destination before s parent name [] stagingMode now →
      (body s).Goes (Instant cwd destination before wanted)
        (fun _ after => Still cwd destination before s parent name after)
        (fun _ after => ∃ up last content mode, wanted content mode ∧
          Placed (ground destination cwd before) after cwd destination up last content mode) cwd now) :
    ReplacesAtomically (during destination body) cwd destination before wanted :=
  .of_goes ((goes_during hbody).mono (fun _ _ hrestored => leavesNothing_of_restored hrestored)
    fun _ _ hended => hended)

/-- **The operation drops what it has staged**: nobody sees anything, and nothing is left. -/
structure DropsAtomically (op : FileOp ε Unit) (cwd : Location) (destination : Path)
    (before : FileSystem) : Prop where
  instants : ∀ now ∈ (op.run cwd before).seen, ∀ parent name,
    (ground destination cwd before).Names cwd destination parent name →
      SeenAt cwd destination before now (fun _ _ => False) parent name
  ended : LeavesNothing cwd destination before (op.result cwd before).2

theorem dropsAtomically_dropped (cwd : Location) (destination : Path) (before : FileSystem)
    (parts : List Bytes) : DropsAtomically (dropped destination parts) cwd destination before := by
  have hgoes : (dropped destination parts).Goes (Instant cwd destination before fun _ _ => False)
      (fun _ after => Restored (ground destination cwd before) after)
      (fun _ after => Restored (ground destination cwd before) after) cwd before := by
    refine (goes_create cwd destination before _).bind fun s now hstaged => ?_
    obtain ⟨parent, name, hfilled⟩ := hstaged
    refine ((goes_appendAll hfilled parts).mono nofun fun _ _ hfilled => hfilled).bind
      fun _ filled hfilled => goes_drop ⟨_, _, hfilled⟩
  refine ⟨fun now hnow parent name hnamed => (hgoes.seen now hnow).seenAt hnamed, ?_⟩
  rcases hresult : (dropped destination parts).result cwd before with ⟨e | ⟨⟩, after⟩
  · exact leavesNothing_of_restored (hgoes.failed e after hresult)
  · exact leavesNothing_of_restored (hgoes.ended () after hresult)

theorem silent_require (a : Artifact) : a.require.Silent := by
  have hpresent : (a.isPresent : FileOp ArtifactError Bool).Silent :=
    FileOp.Silent.bind (fun _ _ => rfl) fun _ =>
      FileOp.Silent.bind (fun _ _ => rfl) fun _ => FileOp.silent_pure _
  refine hpresent.bind fun present => ?_
  split
  · exact FileOp.silent_pure ()
  · exact FileOp.silent_fail

/-- A promotion copies, or finds nothing to copy. -/
theorem replacesAtomically_promote (cwd : Location) (a b : Artifact) (before : FileSystem) :
    ReplacesAtomically (a.promote b) cwd b.path before (CopyOf cwd a.path b.path before) := by
  have hnothing : LeavesNothing cwd b.path before before := leavesNothing_refl cwd b.path before
  have hrequired : a.require.Goes (Instant cwd b.path before (CopyOf cwd a.path b.path before))
      (fun _ after => LeavesNothing cwd b.path before after) (fun _ after => after = before) cwd before :=
    FileOp.goes_of_looks (silent_require a) (Artifact.looks_require a) (fun _ _ => rfl) fun _ => hnothing
  refine .of_goes (hrequired.bind ?_)
  rintro _ _ rfl
  exact (goes_during fun _ _ _ _ hfilled => goes_copy hfilled a.path).mapError
    fun _ _ hrestored => leavesNothing_of_restored hrestored

/-- **All operations that replace a file do it at once.** -/
theorem replacing_atomic (cwd : Location) (destination : Path) (before : FileSystem) :
    (∀ content, ReplacesAtomically (FileOp.writeAtomic destination content) cwd destination before
      fun c m => c = content ∧ m = stagingMode) ∧
    (∀ source, ReplacesAtomically (FileOp.copyAtomic source destination) cwd destination before
      (CopyOf cwd source destination before)) ∧
    (∀ parts, ReplacesAtomically (persisted destination parts) cwd destination before
      fun c m => c = parts.flatten ∧ m = stagingMode) ∧
    (∀ parts, DropsAtomically (dropped destination parts) cwd destination before) ∧
    ∀ a b : Artifact,
      ReplacesAtomically (a.promote b) cwd b.path before (CopyOf cwd a.path b.path before) := by
  refine ⟨fun content => .of_during fun s parent name now hfilled => goes_fill hfilled content,
    fun source => .of_during fun s parent name now hfilled => goes_copy hfilled source,
    fun parts => .of_during fun s parent name now hfilled => ?_,
    dropsAtomically_dropped cwd destination before,
    fun a b => replacesAtomically_promote cwd a b before⟩
  refine ((goes_appendAll hfilled parts).mono nofun fun _ _ hfilled => hfilled).bind
    fun _ filled hfilled => goes_persist hfilled ⟨rfl, rfl⟩

/-- **A destination can become a directory**: on the way from `x` back to `x` one is made, where nothing
was, and it stays when the operation fails. -/
theorem detour_makes_directory :
    (ground ⟨"x/../x"⟩ [] .empty).Names [] ⟨"x/../x"⟩ [] "x" ∧
      FileSystem.empty.entryAt? ["x"] = none ∧
      (∃ e, ((FileOp.writeAtomic ⟨"x/../x"⟩ [1]).run [] .empty).outcome = .error e) ∧
      (∃ now ∈ ((FileOp.writeAtomic ⟨"x/../x"⟩ [1]).run [] .empty).seen,
        now.entryAt? ["x"] = some (.directory 0o755)) ∧
      ((FileOp.writeAtomic ⟨"x/../x"⟩ [1]).run [] .empty).files.entryAt? ["x"] =
        some (.directory 0o755) := by
  refine ⟨eq_ok_of_toOption (by decide +kernel), by decide +kernel,
    eq_error_of_toOption (by decide +kernel), ?_, by decide +kernel⟩
  · have hseen : ((FileOp.writeAtomic ⟨"x/../x"⟩ [1]).run [] .empty).seen.any
        (fun now => now.entryAt? ["x"] = some (.directory 0o755)) = true := by
      decide +kernel
    obtain ⟨now, hnow, hentry⟩ := List.any_eq_true.1 hseen
    exact ⟨now, hnow, of_decide_eq_true hentry⟩

end Bootstrap
