import Bootstrap.FileSystem.Operation
import Bootstrap.Session

/-!
# What a run comes to

Operations and tasks are put together from smaller ones.  What the whole comes to
follows from what its parts come to, so a proof about an operation follows its text
and never opens the definition of a combinator.

* `FileOp.result_bind_eq_ok_iff`, `FileOp.result_bind_eq_error_iff` — the two ways a
  sequence of operations can end;
* `Task.run_bind_eq_ok_iff` — how a sequence of tasks ends well;
* `FileOp.Looks`, `Task.Quiet` — operations and tasks that change nothing.
-/

namespace Bootstrap

variable {σ ε ε' α β : Type} {cwd : Location}

/-- A run whose first part is known. -/
theorem eq_mk_of_fst {r : α × β} {a : α} (h : r.1 = a) : r = (a, r.2) := by
  cases h
  rfl

/-- A run that ended well has a result. -/
theorem eq_of_isOk {r : Except ε α × β} (h : r.1.isOk = true) : ∃ a, r = (.ok a, r.2) := by
  obtain ⟨_ | a, b⟩ := r
  · cases h
  · exact ⟨a, rfl⟩

theorem eq_ok_of_toOption {x : Except ε α} {a : α} (h : x.toOption = some a) : x = .ok a := by
  cases x with
  | error e => cases h
  | ok b => cases h; rfl

theorem eq_error_of_toOption {x : Except ε α} (h : x.toOption = none) : ∃ e, x = .error e := by
  cases x with
  | error e => exact ⟨e, rfl⟩
  | ok b => cases h

namespace FileOp

variable {fs fs' : FileSystem} {op : FileOp ε α} {next : α → FileOp ε β} {e : ε} {b : β}

/-- The outcome of an operation and the files that it leaves. -/
def result (op : FileOp ε α) (cwd : Location) (fs : FileSystem) : Except ε α × FileSystem :=
  ((op.run cwd fs).outcome, (op.run cwd fs).files)

@[simp] theorem result_pure (a : α) : (pure a : FileOp ε α).result cwd fs = (.ok a, fs) := rfl

@[simp] theorem result_fail : (fail e : FileOp ε α).result cwd fs = (.error e, fs) := rfl

@[simp] theorem result_here : (here : FileOp ε Location).result cwd fs = (.ok cwd, fs) := rfl

@[simp] theorem result_current : (current : FileOp ε FileSystem).result cwd fs = (.ok fs, fs) := rfl

theorem result_bind :
    (op >>= next).result cwd fs =
      match op.result cwd fs with
      | (.ok a, middle) => (next a).result cwd middle
      | (.error e, middle) => (.error e, middle) := by
  simp only [result, run, Bind.bind]
  cases (op cwd fs).outcome <;> rfl

/-- A sequence goes on where its first part ended well. -/
theorem result_bind_of_ok {a : α} {middle : FileSystem} (h : op.result cwd fs = (.ok a, middle)) :
    (op >>= next).result cwd fs = (next a).result cwd middle := by
  rw [result_bind, h]

/-- A sequence stops where its first part failed. -/
theorem result_bind_of_error {middle : FileSystem} (h : op.result cwd fs = (.error e, middle)) :
    (op >>= next).result cwd fs = (.error e, middle) := by
  rw [result_bind, h]

/-- A sequence ends well exactly if both parts do. -/
theorem result_bind_eq_ok_iff :
    (op >>= next).result cwd fs = (.ok b, fs') ↔
      ∃ a middle, op.result cwd fs = (.ok a, middle) ∧
        (next a).result cwd middle = (.ok b, fs') := by
  rw [result_bind]
  rcases op.result cwd fs with ⟨_ | a, middle⟩
  · simp
  · constructor
    · intro h
      exact ⟨a, middle, rfl, h⟩
    · rintro ⟨_, _, hfirst, h⟩
      cases hfirst
      exact h

/-- A sequence fails exactly if one part does, the first one or the second behind it. -/
theorem result_bind_eq_error_iff :
    (op >>= next).result cwd fs = (.error e, fs') ↔
      op.result cwd fs = (.error e, fs') ∨
        ∃ a middle, op.result cwd fs = (.ok a, middle) ∧
          (next a).result cwd middle = (.error e, fs') := by
  rw [result_bind]
  rcases op.result cwd fs with ⟨_ | a, middle⟩
  · simp
  · constructor
    · intro h
      exact .inr ⟨a, middle, rfl, h⟩
    · rintro (h | ⟨_, _, hfirst, h⟩)
      · cases h
      · cases hfirst
        exact h

theorem result_look (call : FileSystem → Location → Except Errno α) :
    (look call).result cwd fs = ((call fs cwd).mapError .os, fs) := by
  unfold result run look
  cases call fs cwd <;> rfl

/-- A call that changes the files leaves what it gives, and what was there if it fails. -/
theorem result_change (call : FileSystem → Location → Except Errno FileSystem) :
    (change call).result cwd fs =
      match call fs cwd with
      | .ok after => (.ok (), after)
      | .error e => (.error (.os e), fs) := by
  unfold result run change
  cases call fs cwd <;> rfl

@[simp] theorem result_attempt :
    (attempt op : FileOp ε' (Except ε α)).result cwd fs =
      (.ok (op.result cwd fs).1, (op.result cwd fs).2) := rfl

@[simp] theorem result_ignore :
    (ignore op : FileOp ε' Unit).result cwd fs = (.ok (), (op.result cwd fs).2) := rfl

@[simp] theorem result_mapError (f : ε → ε') :
    (mapError f op).result cwd fs = ((op.result cwd fs).1.mapError f, (op.result cwd fs).2) := rfl

/-- An operation that is undone when it fails. -/
theorem result_orElseUndo (undo : FileOp ε Unit) :
    (orElseUndo op undo).result cwd fs =
      match op.result cwd fs with
      | (.ok a, middle) => (.ok a, middle)
      | (.error e, middle) => (.error e, (undo.result cwd middle).2) := by
  unfold orElseUndo
  rw [result_bind_of_ok result_attempt]
  rcases op.result cwd fs with ⟨_ | a, middle⟩ <;> rfl

theorem result_checkPath (p : Path) :
    (checkPath p).result cwd fs = (if p.hasNull then .error .nullInPath else .ok (), fs) := by
  unfold checkPath
  split <;> rfl

/-- The operation changes no file. -/
def Looks (op : FileOp ε α) : Prop := ∀ cwd fs, (op.result cwd fs).2 = fs

theorem Looks.bind (h : op.Looks) (hnext : ∀ a, (next a).Looks) : (op >>= next).Looks := by
  intro cwd fs
  have hop := h cwd fs
  rw [result_bind]
  rcases hresult : op.result cwd fs with ⟨_ | a, middle⟩
  · rwa [hresult] at hop
  · have hmiddle : middle = fs := by rwa [hresult] at hop
    rw [hmiddle]
    exact hnext a cwd fs

theorem Looks.mapError (h : op.Looks) (f : ε → ε') : (mapError f op).Looks := h

theorem looks_pure (a : α) : (pure a : FileOp ε α).Looks := fun _ _ => rfl

theorem looks_fail : (fail e : FileOp ε α).Looks := fun _ _ => rfl

theorem looks_look (call : FileSystem → Location → Except Errno α) : (look call).Looks := by
  intro cwd fs
  rw [result_look]

/-- A path that no call can be given is refused; otherwise the call is made. -/
theorem result_checkPath_bind (p : Path) (op : FileOp IoError α) :
    (do checkPath p; op : FileOp IoError α).result cwd fs =
      if p.hasNull then (.error .nullInPath, fs) else op.result cwd fs := by
  rw [result_bind, result_checkPath]
  cases p.hasNull <;> rfl

theorem result_read (p : Path) :
    (read p).result cwd fs =
      if p.hasNull then (.error .nullInPath, fs) else ((fs.read cwd p).mapError .os, fs) := by
  unfold read
  rw [result_checkPath_bind, result_look]

theorem result_stat (p : Path) :
    (stat p).result cwd fs =
      if p.hasNull then (.error .nullInPath, fs) else ((fs.stat cwd p).mapError .os, fs) := by
  unfold stat
  rw [result_checkPath_bind, result_look]

/-- Naming an error differently does not change what succeeds. -/
theorem mapError_eq_ok_iff {f : ε → ε'} {x : Except ε α} : x.mapError f = .ok a ↔ x = .ok a := by
  cases x with
  | ok b => exact ⟨fun h => congrArg _ (Except.ok.inj h), fun h => congrArg _ (Except.ok.inj h)⟩
  | error e => exact ⟨nofun, nofun⟩

/-- Reading gives bytes exactly if the path can be given to a call that gives them. -/
theorem result_read_eq_ok_iff {p : Path} {content : Bytes} :
    (read p).result cwd fs = (.ok content, fs') ↔
      p.hasNull = false ∧ fs.read cwd p = .ok content ∧ fs' = fs := by
  rw [result_read]
  cases p.hasNull <;> simp [mapError_eq_ok_iff, eq_comm (a := fs)]

theorem result_stat_eq_ok_iff {p : Path} {entry : Entry} :
    (stat p).result cwd fs = (.ok entry, fs') ↔
      p.hasNull = false ∧ fs.stat cwd p = .ok entry ∧ fs' = fs := by
  rw [result_stat]
  cases p.hasNull <;> simp [mapError_eq_ok_iff, eq_comm (a := fs)]

theorem looks_read (p : Path) : (read p).Looks := by
  intro cwd fs
  rw [result_read]
  split <;> rfl

theorem looks_stat (p : Path) : (stat p).Looks := by
  intro cwd fs
  rw [result_stat]
  split <;> rfl

end FileOp

namespace Task

variable {s s' : Session σ} {t : Task σ ε α} {next : α → Task σ ε β} {e : ε} {b : β}

@[simp] theorem run_pure (a : α) : (pure a : Task σ ε α).run cwd s = (.ok a, s) := rfl

@[simp] theorem run_fail : (fail e : Task σ ε α).run cwd s = (.error e, s) := rfl

@[simp] theorem run_log (level : LogLevel) (source message : String)
    (fields : List (String × String)) :
    (log level source message fields : Task σ ε Unit).run cwd s =
      (.ok (), { s with notes := s.notes ++ [.log ⟨level, source, message, fields⟩] }) := rfl

theorem run_bind :
    (t >>= next).run cwd s =
      match t.run cwd s with
      | (.ok a, middle) => (next a).run cwd middle
      | (.error e, middle) => (.error e, middle) := rfl

/-- A task goes on where its first part ended well. -/
theorem run_bind_of_ok {a : α} {middle : Session σ} (h : t.run cwd s = (.ok a, middle)) :
    (t >>= next).run cwd s = (next a).run cwd middle := by
  rw [run_bind, h]

/-- A task stops where its first part failed. -/
theorem run_bind_of_error {middle : Session σ} (h : t.run cwd s = (.error e, middle)) :
    (t >>= next).run cwd s = (.error e, middle) := by
  rw [run_bind, h]

/-- A sequence of tasks ends well exactly if both parts do. -/
theorem run_bind_eq_ok_iff :
    (t >>= next).run cwd s = (.ok b, s') ↔
      ∃ a middle, t.run cwd s = (.ok a, middle) ∧ (next a).run cwd middle = (.ok b, s') := by
  rw [run_bind]
  rcases t.run cwd s with ⟨_ | a, middle⟩
  · simp
  · constructor
    · intro h
      exact ⟨a, middle, rfl, h⟩
    · rintro ⟨_, _, hfirst, h⟩
      cases hfirst
      exact h

theorem run_onFiles (op : FileOp ε α) :
    (onFiles op).run cwd s =
      ((op.result cwd s.files).1, { s with files := (op.result cwd s.files).2 }) := rfl

theorem run_mapError (f : ε → ε') :
    (mapError f t).run cwd s = ((t.run cwd s).1.mapError f, (t.run cwd s).2) := rfl

/-- A task that was not undone ended well by itself. -/
theorem run_of_orElseUndo {a : α} {undo : Task σ ε Unit}
    (h : (t.orElseUndo undo).run cwd s = (.ok a, s')) : t.run cwd s = (.ok a, s') := by
  have hrun : (t.orElseUndo undo).run cwd s =
      match t.run cwd s with
      | (.ok a, s) => (.ok a, s)
      | (.error e, s) => (.error e, (undo.run cwd s).2) := rfl
  rw [hrun] at h
  split at h
  · rename_i hended
    rw [hended, h]
  · cases h

/-- The task issues no command and changes no file. -/
def Quiet (t : Task σ ε α) : Prop :=
  ∀ cwd s, ((t.run cwd s).2).files = s.files ∧ ((t.run cwd s).2).turns = s.turns

theorem quiet_note (n : Note) : (note n : Task σ ε Unit).Quiet := fun _ _ => ⟨rfl, rfl⟩

theorem quiet_log (level : LogLevel) (source message : String) (fields : List (String × String)) :
    (log level source message fields : Task σ ε Unit).Quiet :=
  quiet_note _

theorem quiet_onFiles {op : FileOp ε α} (h : op.Looks) : (onFiles op : Task σ ε α).Quiet :=
  fun cwd s => ⟨h cwd s.files, rfl⟩

theorem quiet_pure (a : α) : (pure a : Task σ ε α).Quiet := fun _ _ => ⟨rfl, rfl⟩

theorem Quiet.bind (h : t.Quiet) (hnext : ∀ a, (next a).Quiet) : (t >>= next).Quiet := by
  intro cwd s
  obtain ⟨hfiles, hturns⟩ := h cwd s
  rw [run_bind]
  rcases hrun : t.run cwd s with ⟨e | a, middle⟩ <;> rw [hrun] at hfiles hturns
  · exact ⟨hfiles, hturns⟩
  · obtain ⟨hfiles', hturns'⟩ := hnext a cwd middle
    exact ⟨hfiles'.trans hfiles, hturns'.trans hturns⟩

/-- A loop is quiet if its turns are. -/
theorem quiet_forIn {items : List α} {body : α → β → Task σ ε (ForInStep β)}
    (h : ∀ item b, (body item b).Quiet) (b : β) : (forIn items b body).Quiet := by
  induction items generalizing b with
  | nil => exact quiet_pure b
  | cons item rest ih =>
      rw [List.forIn_cons]
      refine (h item b).bind fun step => ?_
      cases step with
      | done b' => exact quiet_pure b'
      | yield b' => exact ih b'

end Task

end Bootstrap
