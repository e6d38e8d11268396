import Bootstrap.Proofs.Pipeline.Generations
import Bootstrap.Proofs.Pipeline.Stages

/-!
# Where the content of a file comes from

A file that a run has written is fresh: a command has printed its content, or the native
compilation has written it, or it was promoted.  What is fresh at a place is fresh there
until something is removed, since a command with spared files leaves a file alone or puts
a fresh one in its place.

* `Origin`, `FreshAt` — files that the turns of a run have written;
* `Turn.Diverts` — an output that took the place of a link to a directory;
* `Session.Advances` — what commands do to files and names;
* `commandClosed_advances` — **commands respect it**.
-/

namespace Bootstrap

open FileSystem

variable {cwd : Location} {c : Config} {host : Host}

/-- **How the content of the file at a place was written.** -/
inductive Origin (c : Config) (host : Host) (cwd : Location) (turns : List Turn) (place : Location)
    (content : Bytes) : Prop
  /-- A command has printed it, and its output was put in place there. -/
  | printed {t : Turn} {destination : Path} {parent : Location} {name : String}
      (mem : t ∈ turns) (call : t.call.2 = .file destination) (succeeded : t.Succeeded)
      (output : t.printed? host cwd = some content)
      (named : (t.ground cwd).Names cwd destination parent name) (here : place = parent ++ [name])
  /-- The native compilation has written it where nothing was. -/
  | compiled {t : Turn} {mode : Nat} (mem : t ∈ turns) (call : t.call = Fixpoint.nativeCall c)
      (free : t.before.nodeAt? place = none)
      (new : t.after.entryAt? place = some (.file content mode))
  /-- The third compilation has printed it, and it was promoted to the expander's artifact. -/
  | promoted {t : Turn} {parent : Location} {name : String}
      (mem : t ∈ turns) (call : t.call = Fixpoint.selfCall c (Fixpoint.second c) (Fixpoint.third c))
      (succeeded : t.Succeeded) (output : t.printed? host cwd = some content)
      (named : t.after.Names cwd (Fixpoint.first c).path parent name)
      (here : place = parent ++ [name])

/-- What has been written stays written. -/
theorem Origin.mono {turns turns' : List Turn} {place : Location} {content : Bytes}
    (h : Origin c host cwd turns place content) (hturns : turns ⊆ turns') :
    Origin c host cwd turns' place content := by
  cases h with
  | printed mem call succeeded output named here =>
      exact .printed (hturns mem) call succeeded output named here
  | compiled mem call free new => exact .compiled (hturns mem) call free new
  | promoted mem call succeeded output named here =>
      exact .promoted (hturns mem) call succeeded output named here

/-- The turns have written the regular file at the place. -/
def FreshAt (c : Config) (host : Host) (cwd : Location) (turns : List Turn) (fs : FileSystem)
    (place : Location) : Prop :=
  ∃ content mode, fs.entryAt? place = some (.file content mode) ∧
    Origin c host cwd turns place content

theorem FreshAt.holdsFile {turns : List Turn} {fs : FileSystem} {place : Location}
    (h : FreshAt c host cwd turns fs place) : HoldsFile fs place := by
  obtain ⟨content, mode, hentry, _⟩ := h
  exact ⟨content, mode, hentry⟩

/-- **The output of the command took the place of a link that led to a directory.** -/
def Turn.Diverts (t : Turn) (cwd : Location) : Prop :=
  t.Succeeded ∧ ∃ destination parent name, t.call.2 = .file destination ∧
    (t.ground cwd).Names cwd destination parent name ∧ ¬ (t.ground cwd).Blunt parent name

/-! ### What commands do to files and names -/

/-- **The turns have removed nothing.**  A fresh file is still fresh, a file is still a file, and a path
names what it named unless an output took the place of a link to a directory. -/
structure Session.Advances (c : Config) (host : Host) (cwd : Location) (new : List Turn)
    (s s' : Session Unit) : Prop where
  turns : s'.turns = s.turns ++ new
  grown : Grown s.files s'.files
  fresh : ∀ place, FreshAt c host cwd s.turns s.files place →
    FreshAt c host cwd s'.turns s'.files place
  holds : ∀ place, HoldsFile s.files place → HoldsFile s'.files place
  names : (∀ t ∈ new, ¬ t.Diverts cwd) → ∀ p parent name, s.files.Names cwd p parent name →
    s'.files.Names cwd p parent name

namespace Session.Advances

variable {new new' : List Turn} {s s' s'' : Session Unit}

theorem of_eq (hfiles : s'.files = s.files) (hturns : s'.turns = s.turns) :
    Session.Advances c host cwd [] s s' where
  turns := by rw [hturns, List.append_nil]
  grown := hfiles ▸ .refl s.files
  fresh := by
    intro place
    rw [hfiles, hturns]
    exact id
  holds := by
    intro place
    rw [hfiles]
    exact id
  names := by
    intro _ p parent name
    rw [hfiles]
    exact id

theorem trans (h : Session.Advances c host cwd new s s')
    (h' : Session.Advances c host cwd new' s' s'') :
    Session.Advances c host cwd (new ++ new') s s'' where
  turns := by rw [h'.turns, h.turns, List.append_assoc]
  grown := h.grown.trans h'.grown
  fresh := fun place hplace => h'.fresh place (h.fresh place hplace)
  holds := fun place hplace => h'.holds place (h.holds place hplace)
  names := by
    intro hnew p parent name hnamed
    refine h'.names (fun t ht => hnew t (List.mem_append_right _ ht)) p parent name ?_
    exact h.names (fun t ht => hnew t (List.mem_append_left _ ht)) p parent name hnamed

/-- A turn that leaves all entries alone. -/
theorem of_kept {t : Turn} (hturns : s'.turns = s.turns ++ [t]) (hgrown : Grown s.files s'.files)
    (hkept : ∀ place, KeptAt s.files s'.files place)
    (hnames : ∀ p parent name, s.files.Names cwd p parent name → s'.files.Names cwd p parent name) :
    Session.Advances c host cwd [t] s s' where
  turns := hturns
  grown := hgrown
  fresh := by
    rintro place ⟨content, mode, hentry, horigin⟩
    exact ⟨content, mode, hkept place _ hentry,
      horigin.mono (hturns ▸ List.subset_append_left _ _)⟩
  holds := by
    rintro place ⟨content, mode, hentry⟩
    exact ⟨content, mode, hkept place _ hentry⟩
  names := fun _ => hnames

end Session.Advances

/-- A file that a command has filled is fresh. -/
theorem Placed.freshAt {turns : List Turn} {t : Turn} {destination : Path} {output : Bytes}
    {parent : Location} {name : String} {mode : Nat} (hmem : t ∈ turns)
    (hcall : t.call.2 = .file destination) (hsucceeded : t.Succeeded)
    (hprinted : t.printed? host cwd = some output)
    (h : Placed (t.ground cwd) t.after cwd destination parent name output mode) :
    FreshAt c host cwd turns t.after (parent ++ [name]) := by
  refine ⟨output, mode, ?_, .printed hmem hcall hsucceeded hprinted h.named rfl⟩
  rw [h.replaced.entryAt?, if_pos rfl]

/-- A redirected command puts a fresh file in the place of what its destination names. -/
theorem Session.advances_redirected {s s' : Session Unit} {i : Invocation} {destination : Path}
    {t : Turn} (hspares : host.Spares i) (ht : host.runner.turn (i, .file destination) cwd s = t)
    (hturns : s'.turns = s.turns ++ [t]) (hfiles : s'.files = t.after) :
    Session.Advances c host cwd [t] s s' := by
  have hfurnished : Furnished s.files (t.ground cwd) := by
    subst ht
    exact (Staged.furnishedOn_ground destination cwd s.files).toFurnished
  have hcall : t.call.2 = .file destination := by
    subst ht
    rfl
  rcases Host.turn_redirected_cases hspares ht with
    ⟨_, hrestored⟩ | ⟨output, parent, name, hsucceeded, hprinted, hplaced⟩
  · rw [← hfiles] at hrestored
    refine .of_kept hturns (hfurnished.grown.trans hrestored.grown) (fun place => ?_) ?_
    · exact (hfurnished.keptAt place).trans (hrestored.keptAt place)
    · exact fun p parent name hnamed => hrestored.names (hfurnished.kept.names hnamed)
  · have hfresh : FreshAt c host cwd s'.turns s'.files (parent ++ [name]) :=
      hfiles ▸ hplaced.freshAt (by simp [hturns]) hcall hsucceeded hprinted
    rw [← hfiles] at hplaced
    have hkept : ∀ place, place ≠ parent ++ [name] → KeptAt s.files s'.files place :=
      fun place hne => (hfurnished.keptAt place).trans (hplaced.keptAt hne)
    refine ⟨hturns, hfurnished.grown.trans hplaced.grown, ?_, ?_, ?_⟩
    · rintro place ⟨content, mode, hentry, horigin⟩
      by_cases hplace : place = parent ++ [name]
      · exact hplace ▸ hfresh
      · exact ⟨content, mode, hkept place hplace _ hentry,
          horigin.mono (hturns ▸ List.subset_append_left _ _)⟩
    · rintro place ⟨content, mode, hentry⟩
      by_cases hplace : place = parent ++ [name]
      · exact hplace ▸ hfresh.holdsFile
      · exact ⟨content, mode, hkept place hplace _ hentry⟩
    · intro hnew p parent' name' hnamed
      have hblunt : (t.ground cwd).Blunt parent name := by
        refine Classical.byContradiction fun hbent => hnew t (List.mem_singleton_self t) ?_
        exact ⟨hsucceeded, destination, parent, name, hcall, hplaced.named, hbent⟩
      exact hplaced.names hblunt (hfurnished.kept.names hnamed)

/-- **Commands advance.** -/
theorem commandClosed_advances :
    CommandClosed c host cwd fun s s' => ∃ new, Session.Advances c host cwd new s s' where
  still := fun hfiles hturns => ⟨[], .of_eq hfiles hturns⟩
  trans := fun ⟨_, h⟩ ⟨_, h'⟩ => ⟨_, h.trans h'⟩
  command := by
    intro s s' i capture t hspares hcapture ht hturns hfiles
    refine ⟨[t], ?_⟩
    rcases hcapture with rfl | ⟨destination, _, rfl⟩
    · have hrestored : Restored s.files s'.files := by
        rw [hfiles, ← ht]
        exact Host.turn_collected hspares
      exact .of_kept hturns hrestored.grown hrestored.keptAt fun _ _ _ => hrestored.names
    · exact Session.advances_redirected hspares ht hturns hfiles

end Bootstrap
