import Bootstrap.Proofs.Pipeline.Provenance

/-!
# Nothing stale is executed

Whenever a run executes an artifact, the file that the command line names was written in
the same run.  Each time there is a reason close by: the file was required right behind the
command that wrote it, or it was promoted and nothing has been removed since.

One loop does not look again.  While the auxiliary entry points are compiled, the output of
one can take the place of a link on the way to the expander; then its path leads nowhere,
and nothing is executed at all.

* `Turn.RunsFresh`, `AllFresh` — what holds of a command, and of all commands of a run;
* `Session.Ready` — a path that names a fresh file;
* `Task.KeepsFresh` — a task that executes fresh files, closed under sequences;
* `Pipeline.keepsFresh_run` — **nothing stale is executed by a run**.
-/

namespace Bootstrap

open FileSystem

variable {cwd : Location} {c : Config} {host : Host} {α β : Type}

/-- The command compiles an auxiliary entry point. -/
def Turn.IsAuxiliary (c : Config) (t : Turn) : Prop :=
  ∃ binary ∈ c.auxiliaries, t.call = Schedule.auxiliary c binary

/-- **What a command executes is fresh**, and it is there unless the output of an auxiliary compilation
took the place of a link to a directory. -/
structure Turn.RunsFresh (c : Config) (host : Host) (cwd : Location) (front : List Turn) (p : Path)
    (t : Turn) : Prop where
  fresh : ∀ place, t.before.reach cwd p = .ok place → FreshAt c host cwd front t.before place
  there : (∀ u ∈ front, u.IsAuxiliary c → ¬ u.Diverts cwd) →
    ∃ place, t.before.reach cwd p = .ok place

/-- Every artifact that the turns execute was written by the turns in front. -/
def AllFresh (c : Config) (host : Host) (cwd : Location) (turns : List Turn) : Prop :=
  ∀ front t rest, turns = front ++ t :: rest → ∀ artifact arguments,
    t.call.1 = (c.selectedToolchain.interpret artifact arguments).invocation →
      t.RunsFresh c host cwd front (c.root.join artifact.relative)

theorem allFresh_nil : AllFresh c host cwd [] := by
  intro front t rest h
  simp at h

theorem AllFresh.snoc {turns : List Turn} {t : Turn} (h : AllFresh c host cwd turns)
    (ht : ∀ artifact arguments,
      t.call.1 = (c.selectedToolchain.interpret artifact arguments).invocation →
        t.RunsFresh c host cwd turns (c.root.join artifact.relative)) :
    AllFresh c host cwd (turns ++ [t]) := by
  intro front u rest hsplit
  rcases List.eq_nil_or_concat rest with rfl | ⟨more, last, rfl⟩
  · obtain ⟨rfl, rfl⟩ := List.append_singleton_inj.1 hsplit
    exact ht
  · rw [List.concat_eq_append, ← List.cons_append, ← List.append_assoc] at hsplit
    obtain ⟨hfront, _⟩ := List.append_inj' hsplit rfl
    exact h front u more hfront

/-- The path names a fresh file. -/
def Session.Ready (c : Config) (host : Host) (cwd : Location) (s : Session Unit) (p : Path) : Prop :=
  ∃ parent name, s.files.Names cwd p parent name ∧ ¬ nameLimit < name.utf8ByteSize ∧
    FreshAt c host cwd s.turns s.files (parent ++ [name])

/-! ### Tasks -/

section

variable {s : Session Unit}

/-- If all that was executed so far was fresh, it is so behind the task. -/
def Task.KeepsFresh (c : Config) (host : Host) (cwd : Location) (s : Session Unit)
    (task : StageTask Unit α) : Prop :=
  AllFresh c host cwd s.turns → AllFresh c host cwd (task.run cwd s).2.turns

namespace Task.KeepsFresh

theorem of_silent {task : StageTask Unit α} (h : Silent task) : task.KeepsFresh c host cwd s := by
  intro hall
  rwa [h cwd s]

theorem bind {task : StageTask Unit α} {next : α → StageTask Unit β}
    (h : task.KeepsFresh c host cwd s)
    (hnext : ∀ a s', task.run cwd s = (.ok a, s') → (next a).KeepsFresh c host cwd s') :
    (task >>= next).KeepsFresh c host cwd s := by
  intro hall
  have hmiddle := h hall
  rw [Task.run_bind]
  rcases hrun : task.run cwd s with ⟨e | a, s'⟩ <;> rw [hrun] at hmiddle
  · exact hmiddle
  · exact hnext a s' hrun hmiddle

end Task.KeepsFresh

namespace StageTask

/-- A command that executes nothing. -/
theorem keepsFresh_other {command : Command} {capture : Capture}
    (h : ∀ artifact arguments,
      command.invocation ≠ (c.selectedToolchain.interpret artifact arguments).invocation) :
    (StageTask.command c host.runner command capture).KeepsFresh c host cwd s := by
  intro hall
  obtain ⟨s', hrun, hturns, _⟩ := run_command c host.runner command capture cwd s
  rw [hrun, hturns]
  exact hall.snoc fun artifact arguments heq => (h artifact arguments heq).elim

theorem keepsFresh_run {key : ArtifactKey} {arguments : List String} {capture : Capture} :
    (StageTask.command c host.runner (c.selectedToolchain.run key arguments)
      capture).KeepsFresh c host cwd s :=
  keepsFresh_other fun artifact => c.selectedToolchain.run_ne_interpret key artifact arguments

theorem keepsFresh_compile {key : ArtifactKey} {capture : Capture} :
    (StageTask.command c host.runner (c.selectedToolchain.compile key)
      capture).KeepsFresh c host cwd s :=
  keepsFresh_other (c.selectedToolchain.compile_ne_interpret key)

/-- A command that executes an artifact. -/
theorem keepsFresh_interpret {artifact : Artifact} {arguments : List String} {capture : Capture}
    (hpath : artifact.path = c.root.join artifact.relative)
    (hfresh : ∀ place, s.files.reach cwd artifact.path = .ok place →
      FreshAt c host cwd s.turns s.files place)
    (hthere : (∀ u ∈ s.turns, u.IsAuxiliary c → ¬ u.Diverts cwd) →
      ∃ place, s.files.reach cwd artifact.path = .ok place) :
    (StageTask.command c host.runner (c.selectedToolchain.interpret artifact arguments)
      capture).KeepsFresh c host cwd s := by
  intro hall
  obtain ⟨s', hrun, hturns, _⟩ := run_command c host.runner
    (c.selectedToolchain.interpret artifact arguments) capture cwd s
  rw [hrun, hturns]
  refine hall.snoc fun artifact' arguments' heq => ?_
  have htext : artifact.relative.text = artifact'.relative.text := by
    have harguments := congrArg Invocation.arguments heq
    simp only [Toolchain.interpret, Toolchain.invocation, List.append_cancel_left_eq,
      List.cons_append, List.cons.injEq, true_and, Runner.turn] at harguments
    exact harguments.1
  have hsame : c.root.join artifact'.relative = artifact.path := by
    rw [hpath]
    exact congrArg c.root.join (congrArg Path.mk htext).symm
  rw [hsame]
  exact ⟨hfresh, hthere⟩

end StageTask

namespace Session.Ready

variable {p : Path} {artifact : Artifact} {arguments : List String} {capture : Capture}

theorem reach (h : s.Ready c host cwd p) :
    ∃ place, s.files.reach cwd p = .ok place ∧ FreshAt c host cwd s.turns s.files place := by
  obtain ⟨parent, name, hnamed, hshort, hfresh⟩ := h
  exact ⟨_, hfresh.holdsFile.reach hnamed hshort, hfresh⟩

/-- A fresh artifact can be executed. -/
theorem keepsFresh (h : s.Ready c host cwd artifact.path)
    (hpath : artifact.path = c.root.join artifact.relative) :
    (StageTask.command c host.runner (c.selectedToolchain.interpret artifact arguments)
      capture).KeepsFresh c host cwd s := by
  obtain ⟨place, hreach, hfresh⟩ := h.reach
  refine StageTask.keepsFresh_interpret hpath (fun other hother => ?_) fun _ => ⟨place, hreach⟩
  rw [hreach] at hother
  exact Except.ok.inj hother ▸ hfresh

end Session.Ready

/-- **A file is fresh when it is there behind the command that wrote it.** -/
theorem StageTask.ready_of_redirected {s' : Session Unit} {command : Command} {p : Path} {o : Output}
    (hspares : host.Spares command.invocation)
    (h : (StageTask.command c host.runner command (.file p)).run cwd s = (.ok o, s'))
    (hfile : s'.files.isFile cwd p = true) : s'.Ready c host cwd p := by
  obtain ⟨after, hrun, hturns, hfiles⟩ := run_command c host.runner command (.file p) cwd s
  obtain ⟨hresult, rfl⟩ := Prod.mk.inj (hrun.symm.trans h)
  have ho := FileOp.mapError_eq_ok_iff.1 hresult
  rcases Host.turn_redirected_cases hspares rfl with
    ⟨hfailed, _⟩ | ⟨printed, parent, name, hsucceeded, hprinted, hplaced⟩
  · exact (hfailed ⟨_, ho⟩).elim
  · obtain ⟨content, mode, hstat⟩ := isFile_iff.1 hfile
    obtain ⟨place, hreach, _⟩ := stat_eq_ok_iff.1 hstat
    rw [hfiles] at hreach
    refine ⟨parent, name, hfiles ▸ (hplaced.names_after hreach).1, hplaced.short, ?_⟩
    rw [hfiles]
    exact hplaced.freshAt (by simp [hturns]) rfl hsucceeded hprinted

end

/-! ### The fixpoint stage -/

namespace Fixpoint

variable {s s' : Session Unit}

/-- The native compilation writes the artifact that it is required to leave. -/
theorem nativeCompile_eq_ok (hhost : host.Sparing c)
    (h : (nativeCompile c host.runner).run cwd s = (.ok (), s')) :
    ∃ fs made parent name content mode t,
      (first c).discard.result cwd s.files = (.ok (), fs) ∧ Furnished fs made ∧
        Written made s'.files cwd (first c).path parent name content mode ∧
        t.call = nativeCall c ∧ t.before = fs ∧ t.after = s'.files ∧
        s'.turns = s.turns ++ [t] := by
  unfold nativeCompile at h
  obtain ⟨_, s₁, hdiscard, hproduce⟩ := Task.run_bind_eq_ok_iff.1 h
  rcases hresult : (first c).discard.result cwd s.files with ⟨e | ⟨⟩, fs⟩
  · rw [StageTask.run_artifacts, hresult] at hdiscard
    cases hdiscard
  rw [StageTask.run_artifacts_of_ok hresult] at hdiscard
  cases hdiscard
  obtain ⟨hvacant, _⟩ := Artifact.discard_eq_ok hresult
  obtain ⟨after, hrun, hturns, hfiles⟩ := StageTask.run_produce c host.runner
    (c.selectedToolchain.compile c.expander) .inherit (first c) cwd { s with files := fs }
  obtain ⟨hverdict, rfl⟩ := Prod.mk.inj (hrun.symm.trans hproduce)
  obtain ⟨_, hfile⟩ := Turn.verdict_eq_ok_iff.1 hverdict
  rcases Host.turn_compile (s := { s with files := fs }) hhost.compile hvacant with
    hrestored | ⟨made, parent, name, content, mode, hmade, hwritten⟩
  · -- Without a new file there would be nothing to find.
    have hnone := ArtifactStore.not_isFile_of_vacant (hrestored.vacant hvacant)
    cases hnone.symm.trans hfile
  · rw [← hfiles] at hwritten
    exact ⟨fs, made, parent, name, content, mode, _, rfl, hmade.toFurnished, hwritten, rfl, rfl,
      hfiles.symm, hturns⟩

theorem ready_of_nativeCompile (hhost : host.Sparing c)
    (h : (nativeCompile c host.runner).run cwd s = (.ok (), s')) :
    s'.Ready c host cwd (first c).path := by
  obtain ⟨fs, made, parent, name, content, mode, t, _, hmade, hwritten, hcall, hbefore, hafter,
    hturns⟩ := nativeCompile_eq_ok hhost h
  refine ⟨parent, name, hwritten.names hwritten.named, hwritten.short, content, mode, hwritten.new, ?_⟩
  have hmem : t ∈ s'.turns := by simp [hturns]
  refine .compiled hmem hcall ?_ (hafter ▸ hwritten.new)
  rw [hbefore]
  rcases hmade.node (parent ++ [name]) with hsame | ⟨hnone, _⟩
  · exact hsame.symm.trans hwritten.free
  · exact hnone

theorem keepsFresh_nativeCompile : (nativeCompile c host.runner).KeepsFresh c host cwd s := by
  unfold nativeCompile
  refine .bind (.of_silent (silent_artifacts _)) fun _ _ _ => ?_
  exact StageTask.keepsFresh_compile.bind fun _ _ _ => .of_silent (silent_artifacts _)

theorem ready_of_selfCompile (hhost : host.Sparing c) {compiler output : Artifact}
    (h : (selfCompile c host.runner compiler output).run cwd s = (.ok (), s')) :
    s'.Ready c host cwd output.path := by
  unfold selfCompile at h
  obtain ⟨o, s₁, hcommand, hrequire⟩ := Task.run_bind_eq_ok_iff.1 h
  obtain ⟨rfl, hfile⟩ := StageTask.require_eq_ok hrequire
  exact StageTask.ready_of_redirected (hhost.interpret _ _) hcommand hfile

theorem keepsFresh_selfCompile {compiler output : Artifact}
    (h : s.Ready c host cwd compiler.path)
    (hpath : compiler.path = c.root.join compiler.relative) :
    (selfCompile c host.runner compiler output).KeepsFresh c host cwd s := by
  unfold selfCompile
  exact (h.keepsFresh hpath).bind fun _ _ _ => .of_silent (silent_artifacts _)

/-- The compilers of the fixpoint stage are fresh. -/
theorem keepsFresh_verify (hhost : host.Sparing c) :
    (verify c host.runner).KeepsFresh c host cwd s := by
  have hthrice : ∀ s, (compileThrice c host.runner).KeepsFresh c host cwd s := by
    intro s
    unfold compileThrice
    refine .bind (.of_silent (silent_requirePrelude c)) fun _ s₁ _ => ?_
    refine keepsFresh_nativeCompile.bind fun _ s₂ hfirst => ?_
    refine (keepsFresh_selfCompile (ready_of_nativeCompile hhost hfirst) rfl).bind
      fun _ s₃ hsecond => ?_
    refine (keepsFresh_selfCompile (ready_of_selfCompile hhost hsecond) rfl).bind fun _ s₄ _ => ?_
    exact .of_silent (silent_compare c)
  unfold verify
  refine .bind (.of_silent (silent_announce _ _ _)) fun _ s₁ _ => ?_
  exact (hthrice s₁).bind fun r _ _ => .of_silent (silent_conclude c r)

/-- **What was promoted is fresh.** -/
theorem ready_of_verify (hhost : host.Sparing c) {report : FixpointReport}
    (h : (verify c host.runner).run cwd s = (.ok report, s')) :
    s'.Ready c host cwd (first c).path := by
  obtain ⟨t₁, t₂, t₃, x, y, mode, directory, n₁, n₂, n₃, hverified, _, _, hcall, hprinted⟩ :=
    verify_prints hhost.interpret h
  obtain ⟨hnamed, _⟩ := hverified.named t₃.after (by simp)
  obtain ⟨hnamed', _⟩ := hverified.named s'.files (by simp)
  have hends := verify_ends c host.runner cwd s
  rw [h] at hends
  cases hends with
  | promoted hcompiled _ hpromoted =>
    obtain ⟨_, _, rfl⟩ := hcompiled.turn_eq hverified.turns
    obtain ⟨rfl, rfl⟩ := hnamed.unique hpromoted.standing.first.named
    refine ⟨directory, n₁, hnamed', hpromoted.standing.first.short, y, mode, hverified.promoted, ?_⟩
    exact .promoted (by simp [hverified.turns]) hcall hcompiled.third.1 hprinted hnamed rfl

end Fixpoint

/-! ### The self-test and the auxiliary entry points -/

/-- The expander has been promoted, and commands have been carried out since. -/
def Session.Promoted (c : Config) (host : Host) (cwd : Location) (s : Session Unit) : Prop :=
  ∃ s₀ new, s₀.Ready c host cwd (Fixpoint.first c).path ∧ Session.Advances c host cwd new s₀ s

namespace Session.Promoted

variable {s s' : Session Unit}

theorem of_ready (h : s.Ready c host cwd (Fixpoint.first c).path) : s.Promoted c host cwd :=
  ⟨s, [], h, .of_eq rfl rfl⟩

theorem advances (h : s.Promoted c host cwd) (h' : ∃ new, Session.Advances c host cwd new s s') :
    s'.Promoted c host cwd := by
  obtain ⟨s₀, new, hready, hadvances⟩ := h
  obtain ⟨new', hadvances'⟩ := h'
  exact ⟨s₀, new ++ new', hready, hadvances.trans hadvances'⟩

/-- If the expander's path leads anywhere, it names what was promoted. -/
theorem ready (h : s.Promoted c host cwd) {place : Location}
    (hreach : s.files.reach cwd (Fixpoint.first c).path = .ok place) :
    s.Ready c host cwd (Fixpoint.first c).path := by
  obtain ⟨s₀, new, ⟨parent, name, hnamed, hshort, hfresh⟩, hadvances⟩ := h
  obtain ⟨_, _, first, hends, _⟩ := names_iff.1 hnamed
  obtain ⟨parent', _, hnamed', _⟩ := names_of_reach hends hreach
  obtain ⟨rfl, _⟩ := hnamed.agree hnamed' hadvances.grown
  exact ⟨_, _, hnamed', hshort, hadvances.fresh _ hfresh⟩

theorem ready_of_isFile (h : s.Promoted c host cwd)
    (hfile : s.files.isFile cwd (Fixpoint.first c).path = true) :
    s.Ready c host cwd (Fixpoint.first c).path := by
  obtain ⟨_, _, hstat⟩ := isFile_iff.1 hfile
  obtain ⟨_, hreach, _⟩ := stat_eq_ok_iff.1 hstat
  exact h.ready hreach

end Session.Promoted

namespace SelfTest

variable {s s' : Session Unit}

theorem ready_of_expand (hhost : host.Sparing c) {mode : SelfTestMode}
    (h : (expand c host.runner mode).run cwd s = (.ok (), s')) :
    s'.Ready c host cwd (program c).path := by
  unfold expand at h
  cases mode with
  | source =>
      obtain ⟨o, s₁, hcommand, hrequire⟩ := Task.run_bind_eq_ok_iff.1 h
      obtain ⟨rfl, hfile⟩ := StageTask.require_eq_ok hrequire
      exact StageTask.ready_of_redirected (hhost.run _ _) hcommand hfile
  | prebuilt =>
      obtain ⟨_, s₁, _, hproduce⟩ := Task.run_bind_eq_ok_iff.1 h
      obtain ⟨o, s₂, hcommand, hrequire⟩ := Task.run_bind_eq_ok_iff.1 hproduce
      obtain ⟨rfl, hfile⟩ := StageTask.require_eq_ok hrequire
      exact StageTask.ready_of_redirected (hhost.interpret _ _) hcommand hfile

theorem keepsFresh_expand_source : (expand c host.runner .source).KeepsFresh c host cwd s := by
  unfold expand
  exact StageTask.keepsFresh_run.bind fun _ _ _ => .of_silent (silent_artifacts _)

/-- The promoted expander is required before it is executed. -/
theorem keepsFresh_expand_prebuilt (h : s.Promoted c host cwd) :
    (expand c host.runner .prebuilt).KeepsFresh c host cwd s := by
  unfold expand
  refine .bind (.of_silent (silent_artifacts _)) fun _ s₁ hrequire => ?_
  obtain ⟨rfl, hfile⟩ := StageTask.require_eq_ok hrequire
  have hready : s₁.Ready c host cwd (c.store.artifact c.expander).path := h.ready_of_isFile hfile
  exact (hready.keepsFresh rfl).bind fun _ _ _ => .of_silent (silent_artifacts _)

theorem keepsFresh_runCase (hhost : host.Sparing c) {mode : SelfTestMode} (case : SelfTestCase)
    (hexpand : (expand c host.runner mode).KeepsFresh c host cwd s) :
    (runCase c host.runner mode case).KeepsFresh c host cwd s := by
  unfold runCase
  refine hexpand.bind fun _ s₁ hrun => ?_
  refine ((ready_of_expand hhost hrun).keepsFresh rfl).bind fun output _ _ => .of_silent ?_
  split
  · exact silent_fail _
  · exact silent_log _ _ _ _

/-- The programs of a self-test are fresh, if the expander is each time. -/
theorem keepsFresh_runCases (hhost : host.Sparing c) {mode : SelfTestMode}
    {P : Session Unit → Prop} (hP : ∀ s s', P s → (∃ new, Session.Advances c host cwd new s s') → P s')
    (hexpand : ∀ s, P s → (expand c host.runner mode).KeepsFresh c host cwd s)
    (cases : List SelfTestCase) (hs : P s) :
    (runCases c host.runner mode cases).KeepsFresh c host cwd s := by
  induction cases generalizing s with
  | nil => exact .of_silent (silent_pure _)
  | cons case rest ih =>
      refine (keepsFresh_runCase hhost case (hexpand s hs)).bind fun _ s₁ hrun => ?_
      have hs₁ : P s₁ :=
        hP s s₁ hs ((within_runCase commandClosed_advances hhost mode case).of_run hrun)
      exact (ih hs₁).bind fun _ _ _ => .of_silent (silent_pure _)

theorem keepsFresh_source (hhost : host.Sparing c) :
    (run c host.runner .source).KeepsFresh c host cwd s := by
  refine .bind (.of_silent (silent_announce _ _ _)) fun _ s₁ _ => ?_
  refine .bind ?_ fun _ _ _ => .of_silent (silent_pure _)
  exact keepsFresh_runCases (P := fun _ => True) hhost (fun _ _ _ _ => trivial)
    (fun _ _ => keepsFresh_expand_source) cases trivial

theorem keepsFresh_prebuilt (hhost : host.Sparing c) (h : s.Promoted c host cwd) :
    (run c host.runner .prebuilt).KeepsFresh c host cwd s := by
  refine .bind (.of_silent (silent_announce _ _ _)) fun _ s₁ hannounce => ?_
  have hs₁ : s₁.Promoted c host cwd := h.advances
    ((StageTask.within_announce commandClosed_advances _ _ _).of_run hannounce)
  refine .bind ?_ fun _ _ _ => .of_silent (silent_pure _)
  exact keepsFresh_runCases hhost (fun _ _ => Session.Promoted.advances)
    (fun _ => keepsFresh_expand_prebuilt) cases hs₁

end SelfTest

/-- Commands that compile auxiliary entry points have been carried out. -/
def Session.AuxiliarySince (c : Config) (host : Host) (cwd : Location) (s s' : Session Unit) : Prop :=
  ∃ new, Session.Advances c host cwd new s s' ∧ ∀ t ∈ new, t.IsAuxiliary c

theorem Session.AuxiliarySince.trans {s s' s'' : Session Unit}
    (h : Session.AuxiliarySince c host cwd s s') (h' : Session.AuxiliarySince c host cwd s' s'') :
    Session.AuxiliarySince c host cwd s s'' := by
  obtain ⟨new, hadvances, hnew⟩ := h
  obtain ⟨new', hadvances', hnew'⟩ := h'
  refine ⟨new ++ new', hadvances.trans hadvances', fun t ht => ?_⟩
  rcases List.mem_append.1 ht with hmem | hmem
  · exact hnew t hmem
  · exact hnew' t hmem

namespace Pipeline

variable {s s₀ s' : Session Unit}

theorem auxiliarySince_compileAuxiliary (hhost : host.Sparing c) {binary : String} {p : Path}
    (hbinary : binary ∈ c.auxiliaries)
    (h : (compileAuxiliary c host.runner binary).run cwd s = (.ok p, s')) :
    Session.AuxiliarySince c host cwd s s' := by
  obtain ⟨new, hadvances⟩ :=
    (within_compileAuxiliary commandClosed_advances hhost hbinary).of_run h
  have hcalls := (follows_compileAuxiliary c host.runner binary).calls_of_ok h hadvances.turns
  refine ⟨new, hadvances, fun t ht => ⟨binary, hbinary, ?_⟩⟩
  have hcall := List.mem_map_of_mem (f := Turn.call) ht
  rw [hcalls] at hcall
  exact List.mem_singleton.1 hcall

/-- **The loop that does not look again.**  What the expander's path leads to is fresh; and it leads
somewhere as long as no auxiliary output has taken the place of a link to a directory. -/
theorem keepsFresh_compileAuxiliary (hs₀ : s₀.Ready c host cwd (Fixpoint.first c).path)
    (hs : Session.AuxiliarySince c host cwd s₀ s) (binary : String) :
    (compileAuxiliary c host.runner binary).KeepsFresh c host cwd s := by
  obtain ⟨new, hadvances, hnew⟩ := hs
  have hpromoted : s.Promoted c host cwd := (Session.Promoted.of_ready hs₀).advances ⟨_, hadvances⟩
  unfold compileAuxiliary
  refine Task.KeepsFresh.bind (StageTask.keepsFresh_interpret rfl ?_ ?_) fun _ _ _ => ?_
  · intro place hreach
    obtain ⟨other, hother, hfresh⟩ := (hpromoted.ready hreach).reach
    exact Except.ok.inj (hother.symm.trans hreach) ▸ hfresh
  · intro hstraight
    obtain ⟨parent, name, hnamed, hshort, hfresh⟩ := hs₀
    have hnamed' := hadvances.names (fun t ht => hstraight t
      (hadvances.turns ▸ List.mem_append_right _ ht) (hnew t ht)) _ _ _ hnamed
    exact ⟨_, (hadvances.fresh _ hfresh).holdsFile.reach hnamed' hshort⟩
  · exact .bind (.of_silent (silent_artifacts _)) fun _ _ _ => .of_silent (silent_pure _)

theorem keepsFresh_compileEach (hhost : host.Sparing c)
    (hs₀ : s₀.Ready c host cwd (Fixpoint.first c).path) (binaries : List String)
    (hbinaries : binaries ⊆ c.auxiliaries) (hs : Session.AuxiliarySince c host cwd s₀ s) :
    (compileEach c host.runner binaries).KeepsFresh c host cwd s := by
  induction binaries generalizing s with
  | nil => exact .of_silent (silent_pure _)
  | cons binary rest ih =>
      obtain ⟨hbinary, hrest⟩ := List.cons_subset.1 hbinaries
      refine (keepsFresh_compileAuxiliary hs₀ hs binary).bind fun p s₁ hrun => ?_
      have hs₁ := hs.trans (auxiliarySince_compileAuxiliary hhost hbinary hrun)
      exact (ih hrest hs₁).bind fun _ _ _ => .of_silent (silent_pure _)

theorem keepsFresh_compileAuxiliaries (hhost : host.Sparing c) (h : s.Promoted c host cwd) :
    (compileAuxiliaries c host.runner).KeepsFresh c host cwd s := by
  unfold compileAuxiliaries
  refine .bind (.of_silent (silent_announce _ _ _)) fun _ s₁ hannounce => ?_
  have hs₁ : s₁.Promoted c host cwd := h.advances
    ((StageTask.within_announce commandClosed_advances _ _ _).of_run hannounce)
  refine .bind (.of_silent (silent_artifacts _)) fun _ s₂ hrequire => ?_
  obtain ⟨rfl, hfile⟩ := StageTask.require_eq_ok hrequire
  exact keepsFresh_compileEach hhost (hs₁.ready_of_isFile hfile) c.auxiliaries
    (List.Subset.refl _) ⟨[], .of_eq rfl rfl, by simp⟩

/-- **Nothing stale is executed**, however the run ends. -/
theorem keepsFresh_run (hhost : host.Sparing c) (s : Session Unit) :
    (run c host.runner).KeepsFresh c host cwd s := by
  unfold run
  have hprelude : (generatePrelude c host.runner).KeepsFresh c host cwd s := by
    unfold generatePrelude
    refine .bind (.of_silent (silent_announce _ _ _)) fun _ _ _ => ?_
    exact StageTask.keepsFresh_run.bind fun _ _ _ => .of_silent (silent_pure _)
  refine hprelude.bind fun _ s₁ _ => ?_
  refine (SelfTest.keepsFresh_source hhost).bind fun _ s₂ _ => ?_
  refine (Fixpoint.keepsFresh_verify hhost).bind fun _ s₃ hverify => ?_
  have hs₃ := Session.Promoted.of_ready (Fixpoint.ready_of_verify hhost hverify)
  refine (SelfTest.keepsFresh_prebuilt hhost hs₃).bind fun _ s₄ htest => ?_
  have hs₄ := hs₃.advances
    ((SelfTest.within_selfTest commandClosed_advances hhost .prebuilt).of_run htest)
  refine (keepsFresh_compileAuxiliaries hhost hs₄).bind fun _ s₅ _ => ?_
  exact .bind (.of_silent (silent_log _ _ _ _)) fun _ _ _ => .of_silent (silent_pure _)

end Pipeline

end Bootstrap
