import Bootstrap.Pipeline.Task
import Bootstrap.Proofs.Artifact.Content
import Bootstrap.Proofs.Running

/-!
# Turns of a run

A run changes the files in two ways: a command does, or the run itself does between two
commands.  Most steps leave the files to the commands; then the files are at every moment
what the last command left.

* `StageTask.run_command`, `StageTask.run_produce` — a command adds one turn;
* `Session.Since` — commands alone have changed the files since.
-/

namespace Bootstrap

variable {σ ε α β : Type} {cwd : Location} {s s' s'' : Session σ}

/-- The command ended well. -/
def Turn.Succeeded (t : Turn) : Prop := ∃ o, t.result = .ok o

/-- The command ended well and left an artifact. -/
def Turn.Produced (t : Turn) (cwd : Location) (a : Artifact) : Prop :=
  t.Succeeded ∧ t.after.isFile cwd a.path = true

/-- What a command comes to that must leave an artifact. -/
def Turn.verdict (t : Turn) (cwd : Location) (a : Artifact) : Except BootstrapError Unit :=
  match t.result with
  | .error e => .error (.process e)
  | .ok _ =>
      if t.after.isFile cwd a.path then .ok () else .error (.artifact (.missing a.key.label a.path))

theorem Turn.verdict_eq_ok_iff {t : Turn} {a : Artifact} :
    t.verdict cwd a = .ok () ↔ t.Produced cwd a := by
  unfold verdict Produced Succeeded
  cases t.result with
  | error e => simp
  | ok o => by_cases h : t.after.isFile cwd a.path = true <;> simp [h]

/-- The error says that the second and the third compilation differ. -/
def BootstrapError.IsViolation (e : BootstrapError) : Prop :=
  ∃ binary second third x y, e = .notIdempotent binary second third x y

@[simp] theorem BootstrapError.not_isViolation_process (e : ProcessError) :
    ¬ (BootstrapError.process e).IsViolation := by
  simp [IsViolation]

@[simp] theorem BootstrapError.not_isViolation_artifact (e : ArtifactError) :
    ¬ (BootstrapError.artifact e).IsViolation := by
  simp [IsViolation]

/-- The failure of a command is no violation. -/
theorem Turn.verdict_ne_violation {t : Turn} {a : Artifact} {e : BootstrapError}
    (h : t.verdict cwd a = .error e) : ¬ e.IsViolation := by
  unfold verdict at h
  split at h
  · cases h
    simp
  · split at h
    · cases h
    · cases h
      simp

/-- The turn that a command makes in a session. -/
def Runner.turn (runner : Runner σ) (call : Call) (cwd : Location) (s : Session σ) : Turn :=
  let reply := runner call.1 call.2 cwd s.files s.memory
  ⟨call, s.files, reply.result, reply.files⟩

namespace StageTask

variable {c : Config} {runner : Runner σ} {command : Command} {capture : Capture}

/-- What becomes of artifacts is the business of their operation. -/
theorem run_artifacts (op : FileOp ArtifactError α) :
    (artifacts op).run cwd s =
      ((op.result cwd s.files).1.mapError .artifact,
        { s with files := (op.result cwd s.files).2 }) := rfl

theorem run_artifacts_of_ok {op : FileOp ArtifactError α} {a : α} {fs : FileSystem}
    (h : op.result cwd s.files = (.ok a, fs)) :
    (artifacts op).run cwd s = (.ok a, { s with files := fs }) := by
  rw [run_artifacts, h]
  rfl

theorem quiet_artifacts {op : FileOp ArtifactError α} (h : op.Looks) :
    (artifacts op : StageTask σ α).Quiet :=
  Task.quiet_onFiles (h.mapError _)

/-- **A command adds one turn**, and the files are what it left. -/
theorem run_command (c : Config) (runner : Runner σ) (command : Command) (capture : Capture)
    (cwd : Location) (s : Session σ) :
    ∃ s', (StageTask.command c runner command capture).run cwd s =
        ((runner.turn (command.invocation, capture) cwd s).result.mapError .process, s') ∧
      s'.turns = s.turns ++ [runner.turn (command.invocation, capture) cwd s] ∧
      s'.files = (runner.turn (command.invocation, capture) cwd s).after :=
  ⟨_, rfl, rfl, rfl⟩

/-- Requiring an artifact looks at the files and leaves the session alone. -/
theorem run_require (a : Artifact) :
    (artifacts a.require : StageTask σ Unit).run cwd s =
      (if s.files.isFile cwd a.path then .ok () else .error (.artifact (.missing a.key.label a.path)),
        s) := by
  rw [run_artifacts, Artifact.result_require]
  split <;> rfl

/-- An artifact that was required is there. -/
theorem require_eq_ok {a : Artifact}
    (h : (artifacts a.require : StageTask σ Unit).run cwd s = (.ok (), s')) :
    s' = s ∧ s.files.isFile cwd a.path = true := by
  rw [run_require] at h
  split at h
  · rename_i hfile
    cases h
    exact ⟨rfl, hfile⟩
  · cases h

/-- **A command that must leave an artifact** adds one turn, whatever it comes to. -/
theorem run_produce (c : Config) (runner : Runner σ) (command : Command) (capture : Capture)
    (a : Artifact) (cwd : Location) (s : Session σ) :
    ∃ s', (do let _ ← StageTask.command c runner command capture
              artifacts a.require : StageTask σ Unit).run cwd s =
        ((runner.turn (command.invocation, capture) cwd s).verdict cwd a, s') ∧
      s'.turns = s.turns ++ [runner.turn (command.invocation, capture) cwd s] ∧
      s'.files = (runner.turn (command.invocation, capture) cwd s).after := by
  obtain ⟨s', hrun, hturns, hfiles⟩ := run_command c runner command capture cwd s
  refine ⟨s', ?_, hturns, hfiles⟩
  rw [Task.run_bind, hrun]
  unfold Turn.verdict
  cases hresult : (runner.turn (command.invocation, capture) cwd s).result with
  | error e => rfl
  | ok o => exact (run_require a).trans (by rw [hfiles])

end StageTask

namespace Session

/-- The files after some turns: what the last of them left, or what was there before. -/
def leftBy (start : FileSystem) (turns : List Turn) : FileSystem :=
  (turns.getLast?.map Turn.after).getD start

@[simp] theorem leftBy_nil (start : FileSystem) : leftBy start [] = start := rfl

@[simp] theorem leftBy_append_singleton (start : FileSystem) (turns : List Turn) (t : Turn) :
    leftBy start (turns ++ [t]) = t.after := by
  simp [leftBy]

theorem leftBy_append (start : FileSystem) (turns more : List Turn) :
    leftBy start (turns ++ more) = leftBy (leftBy start turns) more := by
  rcases List.eq_nil_or_concat more with rfl | ⟨front, t, rfl⟩
  · simp
  · rw [List.concat_eq_append, ← List.append_assoc, leftBy_append_singleton,
      leftBy_append_singleton]

/-- Commands alone have changed the files from one session to the other. -/
def Since (s s' : Session σ) : Prop :=
  ∃ new, s'.turns = s.turns ++ new ∧ s'.files = leftBy s.files new

theorem Since.of_eq (hfiles : s'.files = s.files) (hturns : s'.turns = s.turns) : s.Since s' :=
  ⟨[], by rw [hturns, List.append_nil], hfiles⟩

theorem Since.refl (s : Session σ) : s.Since s := .of_eq rfl rfl

theorem Since.trans (h : s.Since s') (h' : s'.Since s'') : s.Since s'' := by
  obtain ⟨new, hturns, hfiles⟩ := h
  obtain ⟨new', hturns', hfiles'⟩ := h'
  refine ⟨new ++ new', by rw [hturns', hturns, List.append_assoc], ?_⟩
  rw [hfiles', hfiles, leftBy_append]

end Session

end Bootstrap
