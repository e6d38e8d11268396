import Bootstrap.Proofs.Running

/-!
# Two runs in step

What a run depends on is a statement about two runs: they end alike, both well or both with
the same error.  As with one run, what can be said of the whole follows from what can be said
of its parts, so the proofs go along the text of the operation and of the task.

* `fault?` — the error of a computation, if it has failed;
* `InStep` — two runs that end alike, and what holds of them then;
* `FileOp.inStep_bind`, `FileOp.inStep_orElseUndo` — operations;
* `Task.inStep_bind` — tasks.
-/

namespace Bootstrap

variable {ε ε' α α' β β' S T : Type}

/-- The error of a computation that has failed. -/
def fault? : Except ε α → Option ε
  | .error e => some e
  | .ok _ => none

/-- **Two runs in step**: both have ended well, or both with the same error.  `good` holds of what they
have come to in the one case, `bad` in the other. -/
inductive InStep (bad : S → T → Prop) (good : α → β → S → T → Prop) :
    Except ε α × S → Except ε β × T → Prop
  | ok (a : α) (b : β) (s : S) (t : T) (h : good a b s t) : InStep bad good (.ok a, s) (.ok b, t)
  | error (e : ε) (s : S) (t : T) (h : bad s t) : InStep bad good (.error e, s) (.error e, t)

section

variable {bad bad' : S → T → Prop} {good good' : α → β → S → T → Prop}
variable {r : Except ε α × S} {r' : Except ε β × T}

theorem InStep.mono (h : InStep bad good r r') (hbad : ∀ s t, bad s t → bad' s t)
    (hgood : ∀ a b s t, good a b s t → good' a b s t) : InStep bad' good' r r' := by
  cases h with
  | ok a b s t h => exact .ok a b s t (hgood a b s t h)
  | error e s t h => exact .error e s t (hbad s t h)

/-- What is known of either run alone may be used for both. -/
theorem InStep.refine (h : InStep bad good r r')
    (hbad : ∀ e s t, r = (.error e, s) → r' = (.error e, t) → bad s t → bad' s t)
    (hgood : ∀ a b s t, r = (.ok a, s) → r' = (.ok b, t) → good a b s t → good' a b s t) :
    InStep bad' good' r r' := by
  cases h with
  | ok a b s t h => exact .ok a b s t (hgood a b s t rfl rfl h)
  | error e s t h => exact .error e s t (hbad e s t rfl rfl h)

end

/-! ### Operations -/

namespace FileOp

variable {bad mid : FileSystem → FileSystem → Prop} {cwd : Location} {fs gs : FileSystem}
variable {op : FileOp ε α} {op' : FileOp ε α'}

theorem inStep_bind {good : α → α' → FileSystem → FileSystem → Prop}
    {good' : β → β' → FileSystem → FileSystem → Prop} {next : α → FileOp ε β}
    {next' : α' → FileOp ε β'} (h : InStep bad good (op.result cwd fs) (op'.result cwd gs))
    (hnext : ∀ a b fs' gs', good a b fs' gs' →
      InStep bad good' ((next a).result cwd fs') ((next' b).result cwd gs')) :
    InStep bad good' ((op >>= next).result cwd fs) ((op' >>= next').result cwd gs) := by
  rw [result_bind, result_bind]
  generalize op.result cwd fs = r at h ⊢
  generalize op'.result cwd gs = r' at h ⊢
  cases h with
  | ok a b s t h => exact hnext a b s t h
  | error e s t h => exact .error e s t h

theorem inStep_mapError {good : α → α' → FileSystem → FileSystem → Prop} (f : ε → ε')
    (h : InStep bad good (op.result cwd fs) (op'.result cwd gs)) :
    InStep bad good ((mapError f op).result cwd fs) ((mapError f op').result cwd gs) := by
  rw [result_mapError, result_mapError]
  generalize op.result cwd fs = r at h ⊢
  generalize op'.result cwd gs = r' at h ⊢
  cases h with
  | ok a b s t h => exact .ok a b s t h
  | error e s t h => exact .error (f e) s t h

end FileOp

/-! ### Tasks -/

namespace Task

variable {σ : Type} {bad : Session σ → Session σ → Prop} {cwd : Location} {s s' : Session σ}

theorem inStep_bind {good : α → α' → Session σ → Session σ → Prop}
    {good' : β → β' → Session σ → Session σ → Prop} {t : Task σ ε α} {t' : Task σ ε α'}
    {next : α → Task σ ε β} {next' : α' → Task σ ε β'}
    (h : InStep bad good (t.run cwd s) (t'.run cwd s'))
    (hnext : ∀ a b s s', good a b s s' →
      InStep bad good' ((next a).run cwd s) ((next' b).run cwd s')) :
    InStep bad good' ((t >>= next).run cwd s) ((t' >>= next').run cwd s') := by
  rw [run_bind, run_bind]
  generalize t.run cwd s = r at h ⊢
  generalize t'.run cwd s' = r' at h ⊢
  cases h with
  | ok a b s t h => exact hnext a b s t h
  | error e s t h => exact .error e s t h

end Task

end Bootstrap
