import Bootstrap.Pipeline.Run
import Bootstrap.Proofs.Artifact.Promotion
import Bootstrap.Proofs.Process.Redirect

/-!
# A toolchain that changes no files

The programs that a bootstrap starts print what they have made, and the run puts it where
it belongs.  One command is different: the native compilation writes the expander's
artifact itself.

* `Written` — a new file where a path named nothing;
* `Host.Writes` — a program that may write one file;
* `Host.Sparing` — what a toolchain may do to the files;
* `Host.turn_compile`, `Host.turn_collected` — the turns whose output goes to no file;
* `Host.printing` — a toolchain that does nothing but print.
-/

namespace Bootstrap

open FileSystem

variable {cwd parent place : Location} {fs made after : FileSystem} {i : Invocation} {host : Host}
variable {p : Path} {name : String} {content : Bytes} {mode : Nat}

namespace Toolchain

variable (t : Toolchain)

theorem run_ne_compile (key key' : ArtifactKey) (arguments : List String) :
    (t.run key arguments).invocation ≠ (t.compile key').invocation := by
  intro heq
  have harguments := congrArg Invocation.arguments heq
  simp [run, compile, invocation] at harguments

theorem run_ne_interpret (key : ArtifactKey) (artifact : Artifact) (arguments arguments' : List String) :
    (t.run key arguments).invocation ≠ (t.interpret artifact arguments').invocation := by
  intro heq
  have harguments := congrArg Invocation.arguments heq
  simp [run, interpret, invocation] at harguments

theorem compile_ne_interpret (key : ArtifactKey) (artifact : Artifact) (arguments : List String) :
    (t.compile key).invocation ≠ (t.interpret artifact arguments).invocation := by
  intro heq
  have harguments := congrArg Invocation.arguments heq
  simp [compile, interpret, invocation] at harguments

end Toolchain

/-- A new file is the entry that a path named while nothing was there. -/
structure Written (made after : FileSystem) (cwd : Location) (p : Path) (parent : Location)
    (name : String) (content : Bytes) (mode : Nat) : Prop where
  named : made.Names cwd p parent name
  short : ¬ nameLimit < name.utf8ByteSize
  free : made.nodeAt? (parent ++ [name]) = none
  node : ∀ other, other ≠ parent ++ [name] → after.nodeAt? other = made.nodeAt? other
  file : ∀ other number, made.nodeAt? other = some (.file number) →
    after.file? number = made.file? number
  new : after.entryAt? (parent ++ [name]) = some (.file content mode)

namespace Written

theorem entryAt? (h : Written made after cwd p parent name content mode)
    (hne : place ≠ parent ++ [name]) : after.entryAt? place = made.entryAt? place :=
  entryAt?_congr (h.node place hne) fun number hnode => h.file place number hnode

theorem grown (h : Written made after cwd p parent name content mode) : Grown made after := by
  intro other
  by_cases hother : other = parent ++ [name]
  · obtain ⟨node, hnode, hshown⟩ := nodeAt?_of_entryAt? h.new
    have hplain : ¬ made.HoldsDirectory other := by
      rintro ⟨_, _, hdirectory⟩
      rw [hother, h.free] at hdirectory
      cases hdirectory
    cases node with
    | file number => exact .inr (.inr ⟨hplain, number, hother ▸ hnode⟩)
    | _ => cases hshown
  · exact .inl (alikeAt_of_eq (h.node other hother))

/-- A path names what it named. -/
theorem names {q : Path} {up : Location} {last : String}
    (h : Written made after cwd p parent name content mode) (hnamed : made.Names cwd q up last) :
    after.Names cwd q up last := by
  refine hnamed.keep (· = parent ++ [name]) ?_ ?_
  · intro up last hplace
    exact blunt_of_absent (hplace ▸ h.free)
  · intro other hother
    exact alikeAt_of_eq (h.node other hother)

/-- A path still leads to a directory that it led to. -/
theorem reach {q : Path} (h : Written made after cwd p parent name content mode)
    (hreach : made.reach cwd q = .ok place) (hplace : made.HoldsDirectory place) :
    after.reach cwd q = .ok place := by
  obtain ⟨haccept, links, hle, htrail⟩ := reach_eq_ok_iff.1 hreach
  refine reach_eq_ok_iff.2
    ⟨haccept, links, hle, htrail.keep hplace (· = parent ++ [name]) ?_ ?_⟩
  · intro up last hlast
    exact blunt_of_absent (hlast ▸ h.free)
  · intro other hother
    exact alikeAt_of_eq (h.node other hother)

/-- All other entries are still there. -/
theorem keptAt (h : Written made after cwd p parent name content mode)
    (hne : place ≠ parent ++ [name]) : KeptAt made after place :=
  fun _ hentry => (h.entryAt? hne).trans hentry

end Written

/-- **The program may write one file.**  Where the path names nothing, the program either changes no
file, or makes the directories on the way and a new file that the path names. -/
def Host.Writes (host : Host) (i : Invocation) (p : Path) : Prop :=
  ∀ cwd fs run, host i .collected cwd fs = .ok run → fs.Vacant cwd p →
    Restored fs run.files ∨
      ∃ made parent name content mode,
        FurnishedOn (Staged.directoryOf p).ancestors cwd fs made ∧
          Written made run.files cwd p parent name content mode

/-- **A toolchain that changes no files itself**, but that the native compilation may write the
expander's artifact where there is none. -/
structure Host.Sparing (host : Host) (c : Config) : Prop where
  run : ∀ key arguments, host.Spares (c.selectedToolchain.run key arguments).invocation
  interpret : ∀ artifact arguments,
    host.Spares (c.selectedToolchain.interpret artifact arguments).invocation
  compile : host.Writes (c.selectedToolchain.compile c.expander).invocation (Fixpoint.first c).path

/-- A program whose output is collected leaves the files to itself. -/
theorem Host.files_runCollected {capture : Capture} :
    (host.runCollected i capture cwd fs).files = fs ∨
      ∃ run, host i .collected cwd fs = .ok run ∧
        (host.runCollected i capture cwd fs).files = run.files := by
  unfold runCollected
  cases hrun : host i .collected cwd fs with
  | error e => exact .inl rfl
  | ok run =>
      refine .inr ⟨run, rfl, ?_⟩
      simp only
      split <;> rfl

/-- A command whose output is collected changes nothing. -/
theorem Host.turn_collected {s : Session Unit} (hspares : host.Spares i) :
    Restored s.files (host.runner.turn (i, .bytes) cwd s).after := by
  have hafter : (host.runner.turn (i, .bytes) cwd s).after =
      (host.runCollected i .bytes cwd s.files).files := rfl
  rw [hafter]
  rcases Host.files_runCollected with hfiles | ⟨run, hrun, hfiles⟩
  · rw [hfiles]
    exact .refl s.files
  · obtain ⟨hnodes, hothers, _⟩ := hspares _ _ _ _ hrun
    rw [hfiles]
    exact ⟨hnodes, fun number _ => hothers number (by simp)⟩

/-- The native compilation writes the artifact or changes nothing. -/
theorem Host.turn_compile {s : Session Unit} (hwrites : host.Writes i p)
    (hvacant : s.files.Vacant cwd p) :
    Restored s.files (host.runner.turn (i, .inherit) cwd s).after ∨
      ∃ made parent name content mode,
        FurnishedOn (Staged.directoryOf p).ancestors cwd s.files made ∧
          Written made (host.runner.turn (i, .inherit) cwd s).after cwd p parent name content
            mode := by
  have hafter : (host.runner.turn (i, .inherit) cwd s).after =
      (host.runCollected i .inherit cwd s.files).files := rfl
  rw [hafter]
  rcases Host.files_runCollected with hfiles | ⟨run, hrun, hfiles⟩
  · rw [hfiles]
    exact .inl (.refl s.files)
  · rw [hfiles]
    exact hwrites _ _ _ hrun hvacant

/-! ### A toolchain that prints -/

/-- A toolchain whose programs print, and whose native compilation leaves an empty file where there is
none. -/
def Host.printing (c : Config) (output : Invocation → Bytes) : Host := fun i sink cwd fs =>
  let files := match sink with
    | .file number => fs.appendTo number (output i)
    | .collected =>
        if i = (c.selectedToolchain.compile c.expander).invocation then
          (fs.createNew cwd (Fixpoint.first c).path 0o644).toOption.getD fs
        else fs
  .ok ⟨.exited 0, if sink = .collected then output i else [], [], files⟩

/-- A new file was written where the path named nothing. -/
theorem written_createNew (h : fs.createNew cwd p mode = .ok after) :
    ∃ parent name, Written fs after cwd p parent name [] mode := by
  obtain ⟨parent, name, hnamed, hshort, hfree, _, rfl⟩ := createNew_eq_ok_iff.1 h
  refine ⟨parent, name, hnamed, hshort, hfree, ?_, ?_, ?_⟩
  · intro other hother
    rw [nodeAt?_put_file _ (by simp), if_neg hother]
  · intro other number hnode
    rw [file?_put_file, if_neg]
    rintro rfl
    exact fs.nodeAt?_ne_freshNumber other hnode
  · rw [entryAt?_put _ (by simp), if_pos rfl]

/-- A program that prints changes no file. -/
theorem Host.spares_printing {c : Config} {output : Invocation → Bytes}
    (h : i ≠ (c.selectedToolchain.compile c.expander).invocation) :
    (Host.printing c output).Spares i := by
  intro sink cwd fs run hrun
  cases sink with
  | collected =>
      simp only [Host.printing, if_neg h, Except.ok.injEq] at hrun
      subst hrun
      exact ⟨fun _ => rfl, fun _ _ => rfl, fun _ _ hnone => by cases hnone⟩
  | file number =>
      simp only [Host.printing, Except.ok.injEq] at hrun
      subst hrun
      refine ⟨fun _ => rfl, fun other hne => ?_, fun other file heq hfile => ?_⟩
      · have hother : other ≠ number := by
          rintro rfl
          exact hne rfl
        simp [appendTo, file?_changeFile, hother]
      · cases heq
        refine ⟨output i, fs.now, ?_⟩
        simp [appendTo, file?_changeFile, hfile]

theorem Host.sparing_printing (c : Config) (output : Invocation → Bytes) :
    (Host.printing c output).Sparing c where
  run := by
    intro key arguments
    exact Host.spares_printing (c.selectedToolchain.run_ne_compile key c.expander arguments)
  interpret := by
    intro artifact arguments
    exact Host.spares_printing
      (c.selectedToolchain.compile_ne_interpret c.expander artifact arguments).symm
  compile := by
    intro cwd fs run hrun _
    simp only [Host.printing, if_true, Except.ok.injEq] at hrun
    subst hrun
    cases hcreate : fs.createNew cwd (Fixpoint.first c).path 0o644 with
    | error e => exact .inl (.refl fs)
    | ok created =>
        obtain ⟨parent, name, hwritten⟩ := written_createNew hcreate
        exact .inr ⟨fs, parent, name, [], 0o644, .refl _ cwd fs, hwritten⟩

end Bootstrap
