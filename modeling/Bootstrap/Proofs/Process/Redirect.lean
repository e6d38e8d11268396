import Bootstrap.Process.System
import Bootstrap.Proofs.FileSystem.Growth
import Bootstrap.Proofs.Pipeline.Turns

/-!
# Redirected output

The output of a program that changes no file itself goes into a staging file, and the
staging file is put in place if the program succeeded.  So such a command makes some
directories and replaces one entry, and the new file holds what the program has printed.

* `Host.Spares` — the program changes no file but the one its output goes to;
* `Host.printed?` — what a program printed whose output went to a file;
* `Host.turn_redirected` — what a redirected command has done when it succeeded.
-/

namespace Bootstrap

open FileSystem

variable {cwd : Location} {fs fs' fs'' : FileSystem} {i : Invocation} {host : Host}
variable {place : Location} {destination : Path}

/-- What an open file with some content may have become when more was written behind it. -/
def File.Extended (before : File) (after : Option File) : Prop :=
  ∃ output time, after = some ⟨before.content ++ output, before.mode, time⟩

namespace Host

/-- **The program changes no file itself.**  All that it leaves is the output that it has written
behind what the file held that the output goes to. -/
def Spares (host : Host) (i : Invocation) : Prop :=
  ∀ sink cwd fs run, host i sink cwd fs = .ok run →
    (∀ place, run.files.nodeAt? place = fs.nodeAt? place) ∧
    (∀ number, sink ≠ .file number → run.files.file? number = fs.file? number) ∧
    ∀ number file, sink = .file number → fs.file? number = some file →
      file.Extended (run.files.file? number)

/-- What a program printed whose output went to a file: what the staging file of the destination held
when the program had ended. -/
def printed? (host : Host) (i : Invocation) (destination : Path) (cwd : Location)
    (fs : FileSystem) : Option Bytes :=
  match (Staged.create destination).result cwd fs with
  | (.error _, _) => none
  | (.ok staged, ready) =>
      match host i (.file staged.number) cwd ready with
      | .error _ => none
      | .ok run => (run.files.file? staged.number).map File.content

/-- The staging file of a program that changes no file itself holds its output. -/
theorem Spares.holds {made ready : FileSystem} {staged : Staged} {parent : Location} {name : String}
    {mode : Nat} {run : ChildRun} (hspares : host.Spares i)
    (hholds : staged.Holds made ready cwd parent name [] mode)
    (hrun : host i (.file staged.number) cwd ready = .ok run) :
    ∃ output, (run.files.file? staged.number).map File.content = some output ∧
      staged.Holds made run.files cwd parent name output mode := by
  obtain ⟨hnodes, hothers, hown⟩ := hspares _ _ _ _ hrun
  obtain ⟨time, hnew⟩ := hholds.new
  obtain ⟨output, time', hextended⟩ := hown _ _ rfl hnew
  rw [List.nil_append] at hextended
  refine ⟨output, by rw [hextended]; rfl, hholds.toHandle, ?_, ?_, time', hextended⟩
  · intro other
    rw [hnodes, hholds.node]
  · intro number hne
    rw [hothers number (by simpa using hne.symm), hholds.file number hne]

/-- **The two ends of a redirected command.**  The directories on the way to the destination are made
in any case.  Behind that nothing is seen of a command that fails; if it succeeds, a new file with
its output is the entry that the destination names. -/
theorem runRedirected_cases (hspares : host.Spares i) (destination : Path) (cwd : Location)
    (fs : FileSystem) :
    (∃ e, (host.runRedirected i destination cwd fs).result = .error e ∧
        Restored (Staged.ground destination cwd fs)
          (host.runRedirected i destination cwd fs).files) ∨
      ∃ o output parent name, (host.runRedirected i destination cwd fs).result = .ok o ∧
        host.printed? i destination cwd fs = some output ∧
        Placed (Staged.ground destination cwd fs) (host.runRedirected i destination cwd fs).files cwd
          destination parent name output stagingMode := by
  unfold printed?
  rcases hcreate : (Staged.create destination).result cwd fs with ⟨e | staged, ready⟩ <;>
    obtain ⟨houtcome, hfiles⟩ := Prod.mk.inj hcreate
  · have hground : Staged.ground destination cwd fs = ready := Staged.create_eq_error hcreate
    simp only [runRedirected, houtcome, hfiles, hground]
    exact .inl ⟨_, rfl, .refl ready⟩
  obtain ⟨made, parent, name, hdirectories, hholds⟩ := Staged.create_eq_ok hcreate
  have hground : Staged.ground destination cwd fs = made := by
    rw [Staged.ground, hdirectories]
  have hdropped : ∀ {now content mode}, staged.Holds made now cwd parent name content mode →
      Restored made (staged.drop.result cwd now).2 := by
    intro now content mode hnow
    obtain ⟨after, hdrop, hrestored⟩ := hnow.drop
    rwa [hdrop]
  simp only [runRedirected, houtcome, hfiles, hground]
  cases hrun : host i (.file staged.number) cwd ready with
  | error e => exact .inl ⟨_, rfl, hdropped hholds⟩
  | ok run =>
      obtain ⟨output, hprinted, hwritten⟩ := hspares.holds hholds hrun
      cases hsuccess : run.status.isSuccess with
      | false =>
          simp only [hsuccess, Bool.false_eq_true, if_false]
          exact .inl ⟨_, rfl, hdropped hwritten⟩
      | true =>
          simp only [hsuccess, if_true]
          rcases hpersist : (staged.persist destination).result cwd run.files with
            ⟨e | ⟨⟩, after⟩ <;> obtain ⟨houtcome', hfiles'⟩ := Prod.mk.inj hpersist
          · simp only [houtcome', hfiles', Staged.persist_eq_error hpersist]
            exact .inl ⟨_, rfl, hdropped hwritten⟩
          · simp only [houtcome', hfiles']
            obtain ⟨parent', name', hplaced⟩ := hwritten.persist_eq_ok hpersist
            exact .inr ⟨_, output, parent', name', rfl, hprinted, hplaced⟩

/-- **Redirected output.**  If the command succeeds, some directories have been made and a new file
with the output is the entry that the destination names. -/
theorem runRedirected_eq_ok {o : Output} (hspares : host.Spares i)
    (h : (host.runRedirected i destination cwd fs).result = .ok o) :
    ∃ made output parent name, Furnished fs made ∧
      host.printed? i destination cwd fs = some output ∧
      Placed made (host.runRedirected i destination cwd fs).files cwd destination parent name output
        stagingMode := by
  rcases runRedirected_cases hspares destination cwd fs with
    ⟨e, herror, _⟩ | ⟨_, output, parent, name, _, hprinted, hplaced⟩
  · rw [h] at herror
    cases herror
  · exact ⟨_, output, parent, name, (Staged.furnishedOn_ground destination cwd fs).toFurnished,
      hprinted, hplaced⟩

/-- A program whose output is collected leaves the files as they were. -/
theorem furnished_runCollected {capture : Capture} (hspares : host.Spares i) :
    Furnished fs (host.runCollected i capture cwd fs).files := by
  unfold runCollected
  cases hrun : host i .collected cwd fs with
  | error e => exact .refl fs
  | ok run =>
      obtain ⟨hnodes, hfiles, _⟩ := hspares _ _ _ _ hrun
      have hsame : Furnished fs run.files :=
        ⟨fun place => .inl (hnodes place), fun number => hfiles number (by simp)⟩
      simp only
      split
      · exact hsame
      · exact hsame

end Host

namespace Turn

/-- What the program of a redirected command printed. -/
def printed? (t : Turn) (host : Host) (cwd : Location) : Option Bytes :=
  match t.call.2 with
  | .file destination => host.printed? t.call.1 destination cwd t.before
  | _ => none

/-- The entry that the output of a command went to, as the destination names it when the command has
ended. -/
def target? (t : Turn) (cwd : Location) : Option Location :=
  match t.call.2 with
  | .file destination => t.after.namedPlace? cwd destination
  | _ => none

end Turn

/-- The tree in which the output of a command is put in place: the directories on the way to it have
been made. -/
def Turn.ground (t : Turn) (cwd : Location) : FileSystem :=
  match t.call.2 with
  | .file destination => Staged.ground destination cwd t.before
  | _ => t.before

/-- **The two ends of a redirected command** as a turn of a run. -/
theorem Host.turn_redirected_cases {s : Session Unit} {t : Turn} (hspares : host.Spares i)
    (ht : host.runner.turn (i, .file destination) cwd s = t) :
    (¬ t.Succeeded ∧ Restored (t.ground cwd) t.after) ∨
      ∃ output parent name, t.Succeeded ∧ t.printed? host cwd = some output ∧
        Placed (t.ground cwd) t.after cwd destination parent name output stagingMode := by
  subst ht
  rcases Host.runRedirected_cases hspares destination cwd s.files with
    ⟨e, herror, hrestored⟩ | ⟨o, output, parent, name, hok, hprinted, hplaced⟩
  · refine .inl ⟨?_, hrestored⟩
    rintro ⟨o, ho⟩
    rw [show (host.runRedirected i destination cwd s.files).result = .ok o from ho] at herror
    cases herror
  · exact .inr ⟨output, parent, name, ⟨o, hok⟩, hprinted, hplaced⟩

/-- What a redirected command has done when it succeeded. -/
theorem Host.turn_redirected {s : Session Unit} (hspares : host.Spares i)
    (h : (host.runner.turn (i, .file destination) cwd s).Succeeded) :
    ∃ made output parent name, Furnished s.files made ∧
      (host.runner.turn (i, .file destination) cwd s).printed? host cwd = some output ∧
      Placed made (host.runner.turn (i, .file destination) cwd s).after cwd destination parent name
        output stagingMode := by
  obtain ⟨o, ho⟩ := h
  exact Host.runRedirected_eq_ok hspares ho

end Bootstrap
