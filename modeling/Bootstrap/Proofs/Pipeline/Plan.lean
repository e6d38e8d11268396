import Bootstrap.Pipeline.Run
import Bootstrap.Proofs.Pipeline.Turns

/-!
# Plans

A stage issues its commands in a fixed order, and the first failure ends it, whether a
command failed or a check behind one.  So the commands that a run has issued are the
beginning of a **plan**, all of it if the run succeeded; and a command that failed is the
last one.

* `Halts` — how the turns of a failed run end;
* `Follows.bind` — plans are put together as tasks are;
* `follows_command` — a command follows the plan that consists of it.
-/

namespace Bootstrap

variable {σ α β : Type} {e : BootstrapError} {turns more : List Turn}

/-- The turns of a run that failed with `e`: every command succeeded, or every command but the last,
and that one failed with `e`. -/
def Halts (turns : List Turn) (e : BootstrapError) : Prop :=
  (∀ t ∈ turns, t.Succeeded) ∨
    ∃ front t p, turns = front ++ [t] ∧ (∀ u ∈ front, u.Succeeded) ∧ t.result = .error p ∧
      e = .process p

/-- A failure behind turns that all succeeded. -/
theorem Halts.append (h : Halts more e) (hturns : ∀ t ∈ turns, t.Succeeded) :
    Halts (turns ++ more) e := by
  rcases h with hmore | ⟨front, t, p, rfl, hfront, hresult, he⟩
  · refine .inl fun t ht => ?_
    rcases List.mem_append.1 ht with ht | ht
    · exact hturns t ht
    · exact hmore t ht
  · refine .inr ⟨turns ++ front, t, p, by rw [List.append_assoc], fun u hu => ?_, hresult, he⟩
    rcases List.mem_append.1 hu with hu | hu
    · exact hturns u hu
    · exact hfront u hu

/-- Nothing is issued behind a command that failed, and its error is the error of the run. -/
theorem Halts.last {front rest : List Turn} {t : Turn} (h : Halts (front ++ t :: rest) e)
    (hfailed : ¬ t.Succeeded) : rest = [] ∧ ∃ p, t.result = .error p ∧ e = .process p := by
  rcases h with hall | ⟨front', t', p, heq, hfront', hresult, he⟩
  · exact (hfailed (hall t (by simp))).elim
  · rcases List.eq_nil_or_concat rest with rfl | ⟨rest', last, rfl⟩
    · obtain ⟨_, hlast⟩ := List.append_inj' heq rfl
      cases hlast
      exact ⟨rfl, p, hresult, he⟩
    · rw [List.concat_eq_append, ← List.cons_append, ← List.append_assoc] at heq
      obtain ⟨hfront, _⟩ := List.append_inj' heq rfl
      exact (hfailed (hfront' t (by rw [← hfront]; simp))).elim

/-- **The task follows the plan.**  The commands that it issues are the beginning of the plan.  If it
succeeds they are all of it and have succeeded; if it fails, a command that failed was the last. -/
def Follows (t : StageTask σ α) (plan : List Call) : Prop :=
  ∀ cwd s, ∃ turns, (t.run cwd s).2.turns = s.turns ++ turns ∧
    match (t.run cwd s).1 with
    | .ok _ => turns.map Turn.call = plan ∧ ∀ t ∈ turns, t.Succeeded
    | .error e => turns.map Turn.call <+: plan ∧ Halts turns e

variable {t : StageTask σ α} {next : α → StageTask σ β} {plan plan' : List Call}

/-- **Plans are put together as tasks are.** -/
theorem Follows.bind (h : Follows t plan) (hnext : ∀ a, Follows (next a) plan') :
    Follows (t >>= next) (plan ++ plan') := by
  intro cwd s
  obtain ⟨turns, hturns, hends⟩ := h cwd s
  rcases hrun : t.run cwd s with ⟨e | a, middle⟩
  · rw [Task.run_bind_of_error hrun]
    rw [hrun] at hturns hends
    exact ⟨turns, hturns, hends.1.trans (List.prefix_append _ _), hends.2⟩
  · rw [Task.run_bind_of_ok hrun]
    rw [hrun] at hturns hends
    obtain ⟨hplan, hsucceeded⟩ := hends
    obtain ⟨more, hmore, hends'⟩ := hnext a cwd middle
    refine ⟨turns ++ more, by rw [hmore, hturns, List.append_assoc], ?_⟩
    cases houtcome : ((next a).run cwd middle).1 with
    | error e =>
      rw [houtcome] at hends'
      rw [List.map_append, hplan]
      exact ⟨(List.prefix_append_right_inj _).2 hends'.1, hends'.2.append hsucceeded⟩
    | ok b =>
      rw [houtcome] at hends'
      refine ⟨by rw [List.map_append, hplan, hends'.1], fun t ht => ?_⟩
      rcases List.mem_append.1 ht with ht | ht
      · exact hsucceeded t ht
      · exact hends'.2 t ht

/-- The turns of a task that succeeded are all of its plan. -/
theorem Follows.turns_of_ok {a : α} {cwd : Location} {s s' : Session σ} (h : Follows t plan)
    (hrun : t.run cwd s = (.ok a, s')) :
    ∃ turns, s'.turns = s.turns ++ turns ∧ turns.map Turn.call = plan := by
  obtain ⟨turns, hturns, hends⟩ := h cwd s
  rw [hrun] at hturns hends
  exact ⟨turns, hturns, hends.1⟩

theorem Follows.calls_of_ok {a : α} {cwd : Location} {s s' : Session σ} (h : Follows t plan)
    (hrun : t.run cwd s = (.ok a, s')) (hnew : s'.turns = s.turns ++ turns) :
    turns.map Turn.call = plan := by
  obtain ⟨turns', hturns, hplan⟩ := h.turns_of_ok hrun
  rw [List.append_cancel_left (hnew.symm.trans hturns)]
  exact hplan

/-- The task issues no command. -/
def Silent (t : StageTask σ α) : Prop := ∀ cwd s, (t.run cwd s).2.turns = s.turns

theorem Silent.follows (h : Silent t) : Follows t [] := by
  intro cwd s
  refine ⟨[], by rw [h cwd s, List.append_nil], ?_⟩
  cases (t.run cwd s).1 with
  | error e => exact ⟨List.prefix_rfl, .inl (by simp)⟩
  | ok a => exact ⟨rfl, by simp⟩

/-- Steps that issue no command have no part in the plan. -/
theorem Follows.silent_bind (h : Silent t) (hnext : ∀ a, Follows (next a) plan) :
    Follows (t >>= next) plan :=
  h.follows.bind hnext

theorem Follows.bind_silent (h : Follows t plan) (hnext : ∀ a, Silent (next a)) :
    Follows (t >>= next) plan := by
  have := h.bind fun a => (hnext a).follows
  rwa [List.append_nil] at this

theorem Silent.bind (h : Silent t) (hnext : ∀ a, Silent (next a)) : Silent (t >>= next) := by
  intro cwd s
  have ht := h cwd s
  rw [Task.run_bind]
  rcases hrun : t.run cwd s with ⟨e | a, middle⟩
  · rwa [hrun] at ht
  · rw [hrun] at ht
    exact (hnext a cwd middle).trans ht

theorem silent_pure (a : α) : Silent (pure a : StageTask σ α) := fun _ _ => rfl

theorem silent_fail (e : BootstrapError) : Silent (Task.fail e : StageTask σ α) := fun _ _ => rfl

theorem silent_files : Silent (Task.files : StageTask σ FileSystem) := fun _ _ => rfl

theorem silent_here : Silent (Task.here : StageTask σ Location) := fun _ _ => rfl

theorem silent_log (level : LogLevel) (source message : String) (fields : List (String × String)) :
    Silent (Task.log level source message fields : StageTask σ Unit) := fun _ _ => rfl

theorem silent_announce (source : String) (stage : Stage) (fields : List (String × String)) :
    Silent (StageTask.announce source stage fields : StageTask σ Unit) := fun _ _ => rfl

/-- Whatever is done with artifacts, no command is issued. -/
theorem silent_artifacts (op : FileOp ArtifactError α) :
    Silent (StageTask.artifacts op : StageTask σ α) := fun _ _ => rfl

/-- A command follows the plan that consists of it. -/
theorem follows_command (c : Config) (runner : Runner σ) (command : Command) (capture : Capture) :
    Follows (StageTask.command c runner command capture) [(command.invocation, capture)] := by
  intro cwd s
  obtain ⟨s', hrun, hturns, _⟩ := StageTask.run_command c runner command capture cwd s
  rw [hrun]
  refine ⟨_, hturns, ?_⟩
  cases hresult : (runner.turn (command.invocation, capture) cwd s).result with
  | error p => exact ⟨List.prefix_rfl, .inr ⟨[], _, p, rfl, by simp, hresult, rfl⟩⟩
  | ok o => exact ⟨rfl, by simpa using ⟨o, hresult⟩⟩

/-- A command that must leave an artifact follows the plan that consists of it. -/
theorem follows_produce (c : Config) (runner : Runner σ) (command : Command) (capture : Capture)
    (a : Artifact) :
    Follows (do let _ ← StageTask.command c runner command capture
                StageTask.artifacts a.require) [(command.invocation, capture)] :=
  (follows_command c runner command capture).bind_silent fun _ => silent_artifacts _

end Bootstrap
