import Bootstrap.Proofs.Pipeline.Schedule
import Bootstrap.Proofs.Pipeline.Verification
import Bootstrap.Proofs.Process.Redirect

/-!
# What the generations hold

On a host the output of a self-compilation goes into the file of its generation.  If the
compiler changes no file itself, the second generation still holds what the second
compilation printed when the third has ended, and so what was promoted is what both have
printed.

* `verify_cut` — a stage that succeeded, cut at its three compilations;
* `verify_turns` — the second and the third compilation of a stage that succeeded;
* `Turn.Filled` — a command whose output has become a file;
* `verify_prints` — **both have printed what was promoted**.
-/

namespace Bootstrap

open FileSystem

variable {cwd : Location} {host : Host} {destination : Path}

/-- The output of a command has become a file: some directories were made, and then the file was put
in place. -/
structure Turn.Filled (t : Turn) (host : Host) (cwd : Location) (destination : Path)
    (made : FileSystem) (output : Bytes) (parent : Location) (name : String) : Prop where
  furnished : Furnished t.before made
  printed : t.printed? host cwd = some output
  placed : Placed made t.after cwd destination parent name output stagingMode
  named : t.after.Names cwd destination parent name

namespace Turn.Filled

variable {t : Turn} {made : FileSystem} {output : Bytes} {parent : Location} {name : String}

theorem grown (h : t.Filled host cwd destination made output parent name) :
    Grown t.before t.after :=
  h.furnished.grown.trans h.placed.grown

theorem entry (h : t.Filled host cwd destination made output parent name) :
    t.after.entryAt? (parent ++ [name]) = some (.file output stagingMode) := by
  rw [h.placed.replaced.entryAt?, if_pos rfl]

/-- All other entries are still there. -/
theorem keptAt {place : Location} (h : t.Filled host cwd destination made output parent name)
    (hne : place ≠ parent ++ [name]) : KeptAt t.before t.after place :=
  (h.furnished.keptAt place).trans (h.placed.keptAt hne)

end Turn.Filled

/-- A command that succeeded and left something at its destination has filled it. -/
theorem Host.turn_filled {i : Invocation} {s : Session Unit} (hspares : host.Spares i)
    (h : (host.runner.turn (i, .file destination) cwd s).Succeeded)
    (hfile : (host.runner.turn (i, .file destination) cwd s).after.isFile cwd destination = true) :
    ∃ made output parent name,
      (host.runner.turn (i, .file destination) cwd s).Filled host cwd destination made output parent
        name := by
  obtain ⟨made, output, parent, name, hfurnished, hprinted, hplaced⟩ := Host.turn_redirected hspares h
  obtain ⟨content, mode, hstat⟩ := isFile_iff.1 hfile
  obtain ⟨place, hreach, _⟩ := stat_eq_ok_iff.1 hstat
  exact ⟨made, output, parent, name, hfurnished, hprinted, hplaced, (hplaced.names_after hreach).1⟩

namespace Fixpoint

variable {σ : Type} {c : Config} {runner : Runner σ} {report : FixpointReport}

/-- A stage that succeeded, cut at its three compilations. -/
theorem verify_cut {s s' : Session σ} (h : (verify c runner).run cwd s = (.ok report, s')) :
    ∃ s₁ s₂ s₃ s₄, s₁.files = s.files ∧ s₁.turns = s.turns ∧
      (nativeCompile c runner).run cwd s₁ = (.ok (), s₂) ∧
      (selfCompile c runner (first c) (second c)).run cwd s₂ = (.ok (), s₃) ∧
      (selfCompile c runner (second c) (third c)).run cwd s₃ = (.ok (), s₄) ∧
      s'.turns = s₄.turns := by
  unfold verify at h
  obtain ⟨_, s₀, hannounce, h⟩ := Task.run_bind_eq_ok_iff.1 h
  obtain ⟨r, s₅, hthrice, hconclude⟩ := Task.run_bind_eq_ok_iff.1 h
  unfold compileThrice at hthrice
  obtain ⟨_, s₁, hprelude, hthrice⟩ := Task.run_bind_eq_ok_iff.1 hthrice
  obtain ⟨_, s₂, hnative, hthrice⟩ := Task.run_bind_eq_ok_iff.1 hthrice
  obtain ⟨_, s₃, hsecond, hthrice⟩ := Task.run_bind_eq_ok_iff.1 hthrice
  obtain ⟨_, s₄, hthird, hcompare⟩ := Task.run_bind_eq_ok_iff.1 hthrice
  have hsame : s₁ = s₀ :=
    (congrArg Prod.snd ((run_requirePrelude c cwd s₀).symm.trans hprelude)).symm
  have hturns₅ := silent_compare c cwd s₄
  rw [hcompare] at hturns₅
  have hturns₆ := silent_conclude c r cwd s₅
  rw [hconclude] at hturns₆
  refine ⟨s₁, s₂, s₃, s₄, ?_, ?_, hnative, hsecond, hthird, hturns₆.trans hturns₅⟩
  · cases hannounce
    rw [hsame]
  · cases hannounce
    rw [hsame]

/-- **The self-compilations of a stage that succeeded**: the third one began with the files that the
second one left, and both have left their artifacts. -/
theorem verify_turns {s s' : Session σ} (h : (verify c runner).run cwd s = (.ok report, s')) :
    ∃ t₁ s₁ s₂,
      s'.turns = s.turns ++ [t₁, runner.turn (selfCall c (first c) (second c)) cwd s₁,
        runner.turn (selfCall c (second c) (third c)) cwd s₂] ∧
      s₂.files = (runner.turn (selfCall c (first c) (second c)) cwd s₁).after ∧
      (runner.turn (selfCall c (first c) (second c)) cwd s₁).Produced cwd (second c) ∧
      (runner.turn (selfCall c (second c) (third c)) cwd s₂).Produced cwd (third c) := by
  obtain ⟨s₁, s₂, s₃, s₄, _, hturns₁, hnative, hsecond, hthird, hturns₅⟩ := verify_cut h
  obtain ⟨t₁, hturns₂⟩ : ∃ t₁, s₂.turns = s₁.turns ++ [t₁] := by
    rcases run_nativeCompile c runner cwd s₁ with ⟨e, hrun⟩ | ⟨t, after, _, hrun, hturns, _⟩
    · cases hrun.symm.trans hnative
    · obtain rfl : after = s₂ := congrArg Prod.snd (hrun.symm.trans hnative)
      exact ⟨t, hturns⟩
  obtain ⟨hturns₃, hfiles₃, hproduced₂⟩ := selfCompile_eq_ok hsecond
  obtain ⟨hturns₄, _, hproduced₃⟩ := selfCompile_eq_ok hthird
  refine ⟨t₁, s₂, s₃, ?_, hfiles₃, hproduced₂, hproduced₃⟩
  rw [hturns₅, hturns₄, hturns₃, hturns₂, hturns₁]
  simp

/-- A self-compilation that has left its artifact has filled it. -/
theorem filled_of_produced {s : Session Unit} {compiler output : Artifact}
    (hspares : ∀ artifact arguments,
      host.Spares (c.selectedToolchain.interpret artifact arguments).invocation)
    (h : (host.runner.turn (selfCall c compiler output) cwd s).Produced cwd output) :
    ∃ made content parent name,
      (host.runner.turn (selfCall c compiler output) cwd s).Filled host cwd output.path made content
        parent name :=
  Host.turn_filled (hspares compiler (c.expansionArguments c.expander)) h.1 h.2

/-- **Both compilations have printed what was promoted**, if the compilers change no file themselves. -/
theorem verify_prints {s s' : Session Unit}
    (hspares : ∀ artifact arguments,
      host.Spares (c.selectedToolchain.interpret artifact arguments).invocation)
    (h : (verify c host.runner).run cwd s = (.ok report, s')) :
    ∃ t₁ t₂ t₃ x y mode directory n₁ n₂ n₃,
      Verified c cwd s s' report t₁ t₂ t₃ x y mode directory n₁ n₂ n₃ ∧
        t₂.call = selfCall c (first c) (second c) ∧ t₂.printed? host cwd = some y ∧
        t₃.call = selfCall c (second c) (third c) ∧ t₃.printed? host cwd = some y := by
  obtain ⟨t₁, t₂, t₃, x, y, mode, directory, n₁, n₂, n₃, hverified⟩ := verify_promotes h
  obtain ⟨_, s₁, s₂, hturns, hfiles, hproduced₂, hproduced₃⟩ := verify_turns h
  have hsame := List.append_cancel_left (hverified.turns.symm.trans hturns)
  simp only [List.cons.injEq, and_true] at hsame
  obtain ⟨_, rfl, rfl⟩ := hsame
  obtain ⟨_, out₂, parent₂, name₂, hfilled₂⟩ := filled_of_produced hspares hproduced₂
  obtain ⟨_, out₃, parent₃, name₃, hfilled₃⟩ := filled_of_produced hspares hproduced₃
  obtain ⟨_, hnamed₂, hnamed₃⟩ := hverified.named _ List.mem_cons_self
  have hbegun : (host.runner.turn (selfCall c (second c) (third c)) cwd s₂).before =
      (host.runner.turn (selfCall c (first c) (second c)) cwd s₁).after := hfiles
  have hgrown := hfilled₃.grown
  rw [hbegun] at hgrown
  obtain ⟨rfl, rfl⟩ := hfilled₂.named.agree hnamed₂ hgrown
  obtain ⟨rfl, rfl⟩ := hnamed₃.unique hfilled₃.named
  -- The third compilation has not touched the second generation.
  have hapart : directory ++ [n₂] ≠ directory ++ [n₃] := by
    intro heq
    exact hverified.distinct.2.2 (List.append_singleton_inj.1 heq).2
  have hkept := hfilled₃.keptAt hapart
  rw [hbegun] at hkept
  have hentry₂ := hkept _ hfilled₂.entry
  have hy₂ := hnamed₂.content_of_read hfilled₂.placed.short hentry₂ hverified.read₂
  have hy₃ := hfilled₃.placed.content_of_read hverified.read₃
  exact ⟨_, _, _, x, y, mode, directory, n₁, n₂, n₃, hverified, rfl, hy₂ ▸ hfilled₂.printed, rfl,
    hy₃ ▸ hfilled₃.printed⟩

end Fixpoint

end Bootstrap
