import Bootstrap.Proofs.Running

/-!
# What a run lets be seen

Notes are only ever added.  Which notes a task adds follows from the notes of its steps, and some
steps add a note about what an earlier step came to.  So a task is described by both, the
notes that it adds and what it comes to, and the proofs go along the text of the task.

* `Task.Tells` — the notes of a task and its result;
* `Tells.bind`, `Tells.orElseUndo`, `tells_execute` — sequences, undone tasks, commands.
-/

namespace Bootstrap

variable {σ ε ε' α β : Type}

/-- The runner lets a note be seen when it carries out some command. -/
def Runner.Writes (runner : Runner σ) (n : Note) : Prop :=
  ∃ i capture cwd fs memory, n ∈ (runner i capture cwd fs memory).notes

namespace Task

variable {told : Note → Prop} {good : α → Prop} {good' : β → Prop}
variable {t : Task σ ε α} {next : α → Task σ ε β}

/-- **What a task lets be seen**: every note that it adds is one of those that are `told`, be its end good
or bad, and what it comes to is `good`. -/
structure Tells (told : Note → Prop) (good : α → Prop) (t : Task σ ε α) : Prop where
  notes : ∀ cwd s, ∀ n ∈ ((t.run cwd s).2).notes, n ∈ s.notes ∨ told n
  result : ∀ cwd s a s', t.run cwd s = (.ok a, s') → good a

theorem Tells.mono {told' : Note → Prop} {good' : α → Prop} (h : t.Tells told good)
    (htold : ∀ n, told n → told' n) (hgood : ∀ a, good a → good' a) : t.Tells told' good' where
  notes := fun cwd s n hn => (h.notes cwd s n hn).imp id (htold n)
  result := fun cwd s a s' hrun => hgood a (h.result cwd s a s' hrun)

/-- The second task of a sequence may use what is known of the result of the first. -/
theorem Tells.bind (h : t.Tells told good) (hnext : ∀ a, good a → (next a).Tells told good') :
    (t >>= next).Tells told good' where
  notes := by
    intro cwd s n hn
    have hfirst := h.notes cwd s
    have hgood := h.result cwd s
    rw [run_bind] at hn
    rcases hrun : t.run cwd s with ⟨e | a, middle⟩ <;> rw [hrun] at hn hfirst hgood
    · exact hfirst n hn
    · rcases (hnext a (hgood a middle rfl)).notes cwd middle n hn with hn | hn
      · exact hfirst n hn
      · exact .inr hn
  result := by
    intro cwd s b s' hrun
    obtain ⟨a, middle, hfirst, hsecond⟩ := run_bind_eq_ok_iff.1 hrun
    exact (hnext a (h.result cwd s a middle hfirst)).result cwd middle b s' hsecond

/-- A step that adds no note. -/
theorem tells_of_silent (h : ∀ cwd s, ((t.run cwd s).2).notes = s.notes)
    (hgood : ∀ cwd s a s', t.run cwd s = (.ok a, s') → good a) : t.Tells told good where
  notes := by
    intro cwd s n hn
    rw [h] at hn
    exact .inl hn
  result := hgood

theorem tells_pure {a : α} (h : good a) : (pure a : Task σ ε α).Tells told good :=
  tells_of_silent (fun _ _ => rfl) fun _ _ _ _ hrun => by
    cases hrun
    exact h

theorem tells_fail (e : ε) : (fail e : Task σ ε α).Tells told good :=
  tells_of_silent (fun _ _ => rfl) fun _ _ _ _ hrun => by cases hrun

theorem tells_files : (files : Task σ ε FileSystem).Tells told fun _ => True :=
  tells_of_silent (fun _ _ => rfl) fun _ _ _ _ _ => trivial

theorem tells_here : (here : Task σ ε Location).Tells told fun _ => True :=
  tells_of_silent (fun _ _ => rfl) fun _ _ _ _ _ => trivial

theorem tells_onFiles {op : FileOp ε α}
    (h : ∀ cwd fs a fs', op.result cwd fs = (.ok a, fs') → good a) :
    (onFiles op : Task σ ε α).Tells told good := by
  refine tells_of_silent (fun _ _ => rfl) fun cwd s a s' hrun => ?_
  rw [run_onFiles, Prod.mk.injEq] at hrun
  exact h cwd s.files a _ (Prod.ext hrun.1 rfl)

theorem tells_anyOnFiles (op : FileOp ε α) :
    (onFiles op : Task σ ε α).Tells told fun _ => True :=
  tells_onFiles fun _ _ _ _ _ => trivial

theorem tells_note {n : Note} (h : told n) : (note n : Task σ ε Unit).Tells told fun _ => True where
  notes := by
    intro cwd s m hm
    rcases List.mem_append.1 hm with hm | hm
    · exact .inl hm
    · rw [List.mem_singleton.1 hm]
      exact .inr h
  result := fun _ _ _ _ _ => trivial

theorem Tells.mapError (h : t.Tells told good) (f : ε → ε') : (t.mapError f).Tells told good where
  notes := h.notes
  result := by
    intro cwd s a s' hrun
    rw [run_mapError, Prod.mk.injEq, FileOp.mapError_eq_ok_iff] at hrun
    exact h.result cwd s a _ (Prod.ext hrun.1 rfl)

/-- What is undone may have let notes be seen, and so may the undoing. -/
theorem Tells.orElseUndo {good'' : Unit → Prop} {undo : Task σ ε Unit} (h : t.Tells told good)
    (hundo : undo.Tells told good'') : (t.orElseUndo undo).Tells told good where
  notes := by
    intro cwd s n hn
    have hfirst := h.notes cwd s
    rw [run, Task.orElseUndo] at hn
    rcases hended : t.run cwd s with ⟨e | a, middle⟩ <;> rw [hended] at hn hfirst
    · rcases hundo.notes cwd middle n hn with hn | hn
      · exact hfirst n hn
      · exact .inr hn
    · exact hfirst n hn
  result := fun cwd s a s' hrun => h.result cwd s a s' (run_of_orElseUndo hrun)

/-- A command shows its command line and whatever the runner lets be seen. -/
theorem tells_execute {runner : Runner σ} (hwrites : ∀ n, runner.Writes n → told n)
    (hline : ∀ text, told (.errorLine text)) (echo : Bool) (i : Invocation) (capture : Capture) :
    (execute runner echo i capture).Tells told fun _ => True where
  notes := by
    intro cwd s n hn
    rcases List.mem_append.1 hn with hn | hn
    · rcases List.mem_append.1 hn with hn | hn
      · exact .inl hn
      · cases echo with
        | true => exact .inr (List.mem_singleton.1 hn ▸ hline _)
        | false => cases hn
    · exact .inr (hwrites n ⟨i, capture, cwd, s.files, s.memory, hn⟩)
  result := fun _ _ _ _ _ => trivial

/-- A loop that carries nothing on tells what its turns tell. -/
theorem tells_forIn {items : List α} {body : α → PUnit → Task σ ε (ForInStep PUnit)}
    (h : ∀ item u, (body item u).Tells told fun _ => True) (u : PUnit) :
    (forIn items u body).Tells told fun _ => True := by
  induction items generalizing u with
  | nil => exact tells_pure trivial
  | cons item rest ih =>
      rw [List.forIn_cons]
      refine (h item u).bind fun step _ => ?_
      cases step with
      | done u' => exact tells_pure trivial
      | yield u' => exact ih u'

end Task

end Bootstrap
