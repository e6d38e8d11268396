import Bootstrap.Proofs.Pipeline.Fixpoint
import Bootstrap.Proofs.Pipeline.Stages

/-!
# The frame of a run

A run writes under few names: the prelude, the test program, the three generations of the
expander and the auxiliary artifacts.  However it ends, nothing else has changed, but for
directories on the way to these files.

A path may name one entry at one moment of a run and another one at the next, since an
output can take the place of a link.  So *named* means: in a tree that a command found, that
it left, or in which its output was put in place.

* `Framed` — a tree that differs at named entries and by directories alone;
* `Session.FramedTo` — what a part of a run may do, closed under sequences;
* `run_frame` — **the frame of a run**.
-/

namespace Bootstrap

open FileSystem

variable {cwd : Location} {c : Config} {host : Host}

/-- The trees of a command: what it found, where its output was put in place, and what it left. -/
def Turn.trees (t : Turn) (cwd : Location) : List FileSystem := [t.before, t.ground cwd, t.after]

/-! ### Trees that differ at named entries -/

section

variable {paths : List Path} {trees trees' : List FileSystem} {before middle after : FileSystem}
variable {place parent : Location} {p : Path} {name : String}

/-- In one of the trees one of the paths names the entry. -/
def NamedIn (paths : List Path) (cwd : Location) (trees : List FileSystem) (place : Location) :
    Prop :=
  ∃ p ∈ paths, ∃ fs ∈ trees, ∃ parent name, fs.Names cwd p parent name ∧ place = parent ++ [name]

/-- In one of the trees a prefix of one of the paths leads to the place. -/
def OnWayIn (paths : List Path) (cwd : Location) (trees : List FileSystem) (place : Location) :
    Prop :=
  ∃ p ∈ paths, ∃ q ∈ (Staged.directoryOf p).ancestors, ∃ fs ∈ trees, fs.reach cwd q = .ok place

/-- Every entry is as it was, but those that the paths name, and new directories on the way to
these. -/
def Framed (paths : List Path) (cwd : Location) (trees : List FileSystem)
    (before after : FileSystem) : Prop :=
  ∀ place, NamedIn paths cwd trees place ∨ after.entryAt? place = before.entryAt? place ∨
    before.entryAt? place = none ∧ after.HoldsDirectory place ∧ OnWayIn paths cwd trees place

namespace Framed

theorem of_eq (h : ∀ place, after.entryAt? place = before.entryAt? place) :
    Framed paths cwd trees before after :=
  fun place => .inr (.inl (h place))

theorem mono (h : Framed paths cwd trees before after) (htrees : trees ⊆ trees') :
    Framed paths cwd trees' before after := by
  intro place
  rcases h place with ⟨p, hp, fs, hfs, hnamed⟩ | hsame | ⟨hnone, hnew, p, hp, q, hq, fs, hfs, hreach⟩
  · exact .inl ⟨p, hp, fs, htrees hfs, hnamed⟩
  · exact .inr (.inl hsame)
  · exact .inr (.inr ⟨hnone, hnew, p, hp, q, hq, fs, htrees hfs, hreach⟩)

theorem trans (h : Framed paths cwd trees before middle) (h' : Framed paths cwd trees middle after) :
    Framed paths cwd trees before after := by
  intro place
  rcases h place with hnamed | hsame | ⟨hnone, hnew, hway⟩
  · exact .inl hnamed
  · rcases h' place with hnamed | hsame' | ⟨hnone', hnew'⟩
    · exact .inl hnamed
    · exact .inr (.inl (hsame'.trans hsame))
    · exact .inr (.inr ⟨hsame ▸ hnone', hnew'⟩)
  · obtain ⟨mode, hentry⟩ := holdsDirectory_iff.1 hnew
    rcases h' place with hnamed | hsame' | ⟨hnone', _⟩
    · exact .inl hnamed
    · exact .inr (.inr ⟨hnone, holdsDirectory_iff.2 ⟨mode, hsame'.trans hentry⟩, hway⟩)
    · rw [hentry] at hnone'
      cases hnone'

/-- One named entry has changed. -/
theorem of_named {fs : FileSystem} (hp : p ∈ paths) (hfs : fs ∈ trees)
    (hnamed : fs.Names cwd p parent name)
    (hsame : ∀ place, place ≠ parent ++ [name] → after.entryAt? place = before.entryAt? place) :
    Framed paths cwd trees before after := by
  intro place
  by_cases hplace : place = parent ++ [name]
  · exact .inl ⟨p, hp, fs, hfs, parent, name, hnamed, hplace⟩
  · exact .inr (.inl (hsame place hplace))

/-- Directories have been made on the way to one of the paths. -/
theorem of_furnished (hp : p ∈ paths) (hafter : after ∈ trees)
    (h : FurnishedOn (Staged.directoryOf p).ancestors cwd before after) :
    Framed paths cwd trees before after := by
  intro place
  rcases h.entry place with hsame | ⟨hnone, hnew, q, hq, hreach⟩
  · exact .inr (.inl hsame)
  · exact .inr (.inr ⟨hnone, hnew, p, hp, q, hq, after, hafter, hreach⟩)

end Framed

end

/-! ### Turns -/

namespace Turn

/-- **A redirected command leaves its output and nothing else.**  If it fails, all entries are as they
were, its destination and that of its staging file among them, but for new directories on the way; if
it succeeds, the entry of its destination is new besides. -/
def Tidy (t : Turn) (cwd : Location) : Prop :=
  ∀ destination, t.call.2 = .file destination → ∀ place,
    t.after.entryAt? place = t.before.entryAt? place ∨
      (t.before.entryAt? place = none ∧ t.after.HoldsDirectory place ∧
        ∃ q ∈ (Staged.directoryOf destination).ancestors, (t.ground cwd).reach cwd q = .ok place) ∨
      (t.Succeeded ∧
        ∃ parent name, (t.ground cwd).Names cwd destination parent name ∧ place = parent ++ [name])

/-- What a command may do to the files. -/
structure Keeps (c : Config) (cwd : Location) (t : Turn) : Prop where
  framed : Framed c.outputs cwd (t.trees cwd) t.before t.after
  tidy : t.Tidy cwd

end Turn

section

variable {i : Invocation} {destination : Path} {s : Session Unit} {t : Turn}

/-- A redirected command writes under its destination alone. -/
theorem Turn.keeps_redirected (hspares : host.Spares i) (hp : destination ∈ c.outputs)
    (ht : host.runner.turn (i, .file destination) cwd s = t) : t.Keeps c cwd := by
  have hground : FurnishedOn (Staged.directoryOf destination).ancestors cwd t.before
      (t.ground cwd) := by
    subst ht
    exact Staged.furnishedOn_ground destination cwd s.files
  have hmade : Framed c.outputs cwd (t.trees cwd) t.before (t.ground cwd) :=
    .of_furnished hp (by simp [Turn.trees]) hground
  have hcall : t.call.2 = .file destination := by
    subst ht
    rfl
  -- What is seen behind the directories is seen of them as well.
  have htidy : ∀ place, t.after.entryAt? place = (t.ground cwd).entryAt? place →
      t.after.entryAt? place = t.before.entryAt? place ∨
        (t.before.entryAt? place = none ∧ t.after.HoldsDirectory place ∧
          ∃ q ∈ (Staged.directoryOf destination).ancestors,
            (t.ground cwd).reach cwd q = .ok place) := by
    intro place hafter
    rcases hground.entry place with hsame | ⟨hnone, hnew, hway⟩
    · exact .inl (hafter.trans hsame)
    · obtain ⟨mode, hentry⟩ := holdsDirectory_iff.1 hnew
      exact .inr ⟨hnone, holdsDirectory_iff.2 ⟨mode, hafter.trans hentry⟩, hway⟩
  rcases Host.turn_redirected_cases hspares ht with
    ⟨_, hrestored⟩ | ⟨output, parent, name, hsucceeded, _, hplaced⟩
  · refine ⟨hmade.trans (.of_eq hrestored.entryAt?), ?_⟩
    intro destination' hdestination place
    rw [hcall] at hdestination
    cases hdestination
    exact (htidy place (hrestored.entryAt? place)).imp_right .inl
  · have hothers : ∀ place, place ≠ parent ++ [name] →
        t.after.entryAt? place = (t.ground cwd).entryAt? place := by
      intro place hplace
      rw [hplaced.replaced.entryAt?, if_neg hplace]
    refine ⟨hmade.trans (.of_named hp (by simp [Turn.trees]) hplaced.named hothers), ?_⟩
    intro destination' hdestination place
    rw [hcall] at hdestination
    cases hdestination
    by_cases hplace : place = parent ++ [name]
    · exact .inr (.inr ⟨hsucceeded, parent, name, hplaced.named, hplace⟩)
    · exact (htidy place (hothers place hplace)).imp_right .inl

/-- A command whose output is collected writes nothing. -/
theorem Turn.keeps_collected (hspares : host.Spares i)
    (ht : host.runner.turn (i, .bytes) cwd s = t) : t.Keeps c cwd := by
  subst ht
  refine ⟨.of_eq (Host.turn_collected hspares).entryAt?, ?_⟩
  intro destination hdestination
  cases hdestination

/-- The native compilation writes the expander's artifact alone. -/
theorem Turn.keeps_compile (hwrites : host.Writes i (Fixpoint.first c).path)
    (hvacant : s.files.Vacant cwd (Fixpoint.first c).path)
    (ht : host.runner.turn (i, .inherit) cwd s = t) : t.Keeps c cwd := by
  subst ht
  refine ⟨?_, fun destination hdestination => by cases hdestination⟩
  rcases Host.turn_compile hwrites hvacant with
    hrestored | ⟨made, parent, name, content, mode, hmade, hwritten⟩
  · exact .of_eq hrestored.entryAt?
  intro place
  by_cases hplace : place = parent ++ [name]
  · exact .inl ⟨_, c.first_mem_outputs, _, by simp [Turn.trees], parent, name,
      hwritten.names hwritten.named, hplace⟩
  rcases hmade.entry place with hsame | ⟨hnone, hnew, q, hq, hreach⟩
  · exact .inr (.inl ((hwritten.entryAt? hplace).trans hsame))
  · exact .inr (.inr ⟨hnone, (hwritten.grown place).holdsDirectory hnew, _, c.first_mem_outputs, q,
      hq, _, by simp [Turn.trees], hwritten.reach hreach hnew⟩)

end

/-! ### Parts of a run -/

section

variable {ε α β : Type} {s s₀ s₁ s₂ : Session Unit} {t : Turn}

/-- From one session to the other only named entries have changed, and directories on the way. -/
def Session.FramedTo (c : Config) (cwd : Location) (s s' : Session Unit) : Prop :=
  ∃ new, s'.turns = s.turns ++ new ∧
    Framed c.outputs cwd (new.flatMap (Turn.trees · cwd)) s.files s'.files ∧
    ∀ t ∈ new, t.Tidy cwd

namespace Session.FramedTo

theorem of_eq (hfiles : s₁.files = s.files) (hturns : s₁.turns = s.turns) :
    Session.FramedTo c cwd s s₁ :=
  ⟨[], by rw [hturns, List.append_nil], .of_eq fun place => by rw [hfiles], by simp⟩

theorem of_turn (ht : t.Keeps c cwd) (hbefore : t.before = s.files)
    (hturns : s₁.turns = s.turns ++ [t]) (hfiles : s₁.files = t.after) :
    Session.FramedTo c cwd s s₁ := by
  refine ⟨[t], hturns, ?_, ?_⟩
  · rw [← hbefore, hfiles]
    simpa using ht.framed
  · intro u hu
    rw [List.mem_singleton.1 hu]
    exact ht.tidy

theorem trans (h : Session.FramedTo c cwd s s₁) (h' : Session.FramedTo c cwd s₁ s₂) :
    Session.FramedTo c cwd s s₂ := by
  obtain ⟨new, hturns, hframed, htidy⟩ := h
  obtain ⟨new', hturns', hframed', htidy'⟩ := h'
  refine ⟨new ++ new', by rw [hturns', hturns, List.append_assoc], ?_, ?_⟩
  · rw [List.flatMap_append]
    exact (hframed.mono (List.subset_append_left _ _)).trans
      (hframed'.mono (List.subset_append_right _ _))
  · intro t ht
    rcases List.mem_append.1 ht with hmem | hmem
    · exact htidy t hmem
    · exact htidy' t hmem

end Session.FramedTo

/-- The files are what some command has left since. -/
def Session.LeftSince (s s' : Session Unit) : Prop :=
  ∃ new t, s'.turns = s.turns ++ new ∧ t ∈ new ∧ t.after = s'.files

/-- Commands go on from what a command has left. -/
theorem Session.LeftSince.since (h : s.LeftSince s₁) (h' : s₁.Since s₂) : s.LeftSince s₂ := by
  obtain ⟨new, t, hnew, ht, hafter⟩ := h
  obtain ⟨new', hnew', hfiles⟩ := h'
  rcases List.eq_nil_or_concat new' with rfl | ⟨front, last, rfl⟩
  · exact ⟨new, t, by rw [hnew', hnew, List.append_nil], ht, hafter.trans hfiles.symm⟩
  · rw [List.concat_eq_append] at hnew' hfiles
    refine ⟨new ++ (front ++ [last]), last, by rw [hnew', hnew, List.append_assoc], by simp, ?_⟩
    rw [hfiles, Session.leftBy_append_singleton]

/-- A change between two commands, at entries that are named in what the first of them has left. -/
theorem Session.FramedTo.change (h : Session.FramedTo c cwd s s₁) (hleft : s.LeftSince s₁)
    (hturns : s₂.turns = s₁.turns) (hframed : Framed c.outputs cwd [s₁.files] s₁.files s₂.files) :
    Session.FramedTo c cwd s s₂ := by
  obtain ⟨new, hnew, hframed₁, htidy⟩ := h
  obtain ⟨new', t, hnew', ht, hafter⟩ := hleft
  obtain rfl := List.append_cancel_left (hnew'.symm.trans hnew)
  refine ⟨new', hturns.trans hnew, hframed₁.trans (hframed.mono fun fs hfs => ?_), htidy⟩
  rw [List.mem_singleton.1 hfs]
  exact List.mem_flatMap.2 ⟨t, ht, by simp [Turn.trees, hafter]⟩

/-- However the task ends that goes on from `s₁`, only named entries have changed since `s`, and
directories on the way. -/
def Task.FramesSince (c : Config) (cwd : Location) (s : Session Unit) (task : Task Unit ε α)
    (s₁ : Session Unit) : Prop :=
  Session.FramedTo c cwd s (task.run cwd s₁).2

namespace Task

variable {task : Task Unit ε α} {next : α → Task Unit ε β}

/-- A sequence goes on from where its first part has led. -/
theorem FramesSince.bind (h : task.FramesSince c cwd s s₁)
    (hnext : ∀ a s₂, task.run cwd s₁ = (.ok a, s₂) → Session.FramedTo c cwd s s₂ →
      (next a).FramesSince c cwd s s₂) :
    (task >>= next).FramesSince c cwd s s₁ := by
  unfold FramesSince at h ⊢
  rw [run_bind]
  rcases hrun : task.run cwd s₁ with ⟨e | a, s₂⟩ <;> rw [hrun] at h
  · exact h
  · exact hnext a s₂ hrun h

theorem Within.framesSince (h : task.Within (Session.FramedTo c cwd) cwd)
    (hs : Session.FramedTo c cwd s s₁) : task.FramesSince c cwd s s₁ :=
  hs.trans (h s₁)

end Task

/-- A command writes under its destination alone. -/
theorem commandClosed_framedTo : CommandClosed c host cwd (Session.FramedTo c cwd) where
  still := .of_eq
  trans := .trans
  command := by
    intro s s' i capture t hspares hcapture ht hturns hfiles
    have hbefore : t.before = s.files := by
      subst ht
      rfl
    rcases hcapture with rfl | ⟨destination, hp, rfl⟩
    · exact .of_turn (Turn.keeps_collected hspares ht) hbefore hturns hfiles
    · exact .of_turn (Turn.keeps_redirected hspares hp ht) hbefore hturns hfiles

end

namespace Fixpoint

/-- A promotion changes the three entries that the artifacts are. -/
theorem framed_of_settled {fs fs' : FileSystem} {parent : Location} {n₁ n₂ n₃ : String}
    {content : Bytes} {mode : Nat}
    (hstanding : Standing fs cwd (first c) (second c) (third c) parent n₁ n₂ n₃)
    (hsettled : Settled fs fs' (parent ++ [n₁]) (parent ++ [n₂]) (parent ++ [n₃]) content mode) :
    Framed c.outputs cwd [fs] fs fs' := by
  have hnamed : ∀ {p name}, p ∈ c.outputs → fs.Names cwd p parent name →
      NamedIn c.outputs cwd [fs] (parent ++ [name]) := by
    intro p name hp hname
    exact ⟨p, hp, fs, List.mem_singleton_self fs, parent, name, hname, rfl⟩
  intro place
  by_cases h₁ : place = parent ++ [n₁]
  · exact .inl (h₁ ▸ hnamed c.first_mem_outputs hstanding.first.named)
  by_cases h₂ : place = parent ++ [n₂]
  · exact .inl (h₂ ▸ hnamed c.second_mem_outputs hstanding.second.named)
  by_cases h₃ : place = parent ++ [n₃]
  · exact .inl (h₃ ▸ hnamed c.third_mem_outputs hstanding.third.named)
  exact .inr (.inl (hsettled.frame place h₁ h₂ h₃))

/-- Behind the comparison nothing changes, or a promotion changes three entries. -/
theorem framesSince_conclude {s s₁ : Session Unit} {x y z : Bytes}
    (h : Session.FramedTo c cwd s s₁) (hleft : s.LeftSince s₁)
    (hcontents : Contents c cwd s₁.files x y z)
    (hfile : s₁.files.isFile cwd (third c).path = true) :
    (conclude c (comparison x y z) : StageTask Unit FixpointReport).FramesSince c cwd s s₁ := by
  unfold Task.FramesSince
  by_cases hyz : y = z
  case neg =>
    rw [run_conclude_of_ne hyz]
    exact h
  subst hyz
  obtain ⟨s₂, hfiles₂, hturns₂, hrun⟩ := run_conclude_of_eq c x y cwd s₁
  obtain ⟨hnull₂, _, _⟩ := Artifact.result_content_eq_ok_iff.1 hcontents.second
  obtain ⟨hnull₃, _, _⟩ := Artifact.result_content_eq_ok_iff.1 hcontents.third
  obtain ⟨parent, n₁, n₂, n₃, hstanding⟩ := hcontents.standing
  rw [← hfiles₂] at hstanding hfile
  rw [hrun]
  rcases run_promote (.ofBytes y) hstanding hfile hnull₂ hnull₃ with
    ⟨e, s', hpromote, hturns, hrestored⟩ |
      ⟨s', content, mode, hpromote, hturns, hsettled, _, _, _⟩
  · rw [hpromote]
    rw [hfiles₂] at hrestored
    exact h.change hleft (hturns.trans hturns₂) (.of_eq hrestored.entryAt?)
  · rw [hpromote]
    rw [hfiles₂] at hstanding hsettled
    exact h.change hleft (hturns.trans hturns₂) (framed_of_settled hstanding hsettled)

end Fixpoint

/-! ### The stages -/

section

variable (hhost : host.Sparing c)
include hhost

namespace Fixpoint

/-- The native compilation discards one named entry and may write it again. -/
theorem framesSince_nativeCompile {s s₁ : Session Unit} (h : Session.FramedTo c cwd s s₁)
    (hleft : s.LeftSince s₁) : (nativeCompile c host.runner).FramesSince c cwd s s₁ := by
  unfold Task.FramesSince nativeCompile
  rcases hdiscard : (first c).discard.result cwd s₁.files with ⟨e | ⟨⟩, fs⟩
  · obtain rfl := Artifact.discard_eq_error hdiscard
    rw [Task.run_bind, StageTask.run_artifacts, hdiscard]
    exact h
  rw [Task.run_bind_of_ok (StageTask.run_artifacts_of_ok hdiscard)]
  obtain ⟨hvacant, hchanged⟩ := Artifact.discard_eq_ok hdiscard
  have hdiscarded : Session.FramedTo c cwd s { s₁ with files := fs } := by
    refine h.change hleft rfl ?_
    rcases hchanged with rfl | ⟨parent, name, hnamed, _, rfl⟩
    · exact .of_eq fun _ => rfl
    · refine .of_named c.first_mem_outputs (List.mem_singleton_self _) hnamed fun place hplace => ?_
      rw [entryAt?_erase _ (by simp), if_neg hplace]
  obtain ⟨s', hrun, hturns, hfiles⟩ := StageTask.run_produce c host.runner
    (c.selectedToolchain.compile c.expander) .inherit (first c) cwd { s₁ with files := fs }
  have hturn : (host.runner.turn (nativeCall c) cwd { s₁ with files := fs }).Keeps c cwd :=
    Turn.keeps_compile (s := { s₁ with files := fs }) hhost.compile hvacant rfl
  rw [hrun]
  exact hdiscarded.trans (.of_turn hturn rfl hturns hfiles)

theorem framesSince_compileThrice {s s₁ : Session Unit} (h : Session.FramedTo c cwd s s₁)
    (hleft : s.LeftSince s₁) : (compileThrice c host.runner).FramesSince c cwd s s₁ := by
  have hprelude := run_requirePrelude c cwd s₁
  have hR : CommandClosed c host cwd (Session.FramedTo c cwd) := commandClosed_framedTo
  have hcompare : (compare c : StageTask Unit Comparison).Within (Session.FramedTo c cwd) cwd := by
    intro s₄
    rcases compare_cases c cwd s₄ with ⟨x, y, z, _, hrun⟩ | ⟨e, hrun, _⟩ <;>
      exact .of_eq (by rw [hrun]) (by rw [hrun])
  have hlook : (requirePrelude c).FramesSince c cwd s s₁ := by
    unfold Task.FramesSince
    rwa [hprelude]
  refine hlook.bind fun _ s₂ hrun _ => ?_
  obtain rfl : s₂ = s₁ := (congrArg Prod.snd (hprelude.symm.trans hrun)).symm
  refine (framesSince_nativeCompile hhost h hleft).bind fun _ s₃ _ hs₃ => ?_
  refine Task.Within.framesSince ?_ hs₃
  refine (within_selfCompile hR hhost _ c.second_mem_outputs).bind hR fun _ => ?_
  exact (within_selfCompile hR hhost _ c.third_mem_outputs).bind hR fun _ => hcompare

theorem framesSince_verify {s s₁ : Session Unit} (h : Session.FramedTo c cwd s s₁)
    (hleft : s.LeftSince s₁) : (verify c host.runner).FramesSince c cwd s s₁ := by
  unfold verify
  have hR : CommandClosed c host cwd (Session.FramedTo c cwd) := commandClosed_framedTo
  have hannounce := (StageTask.within_announce hR logSource .fixpoint []).framesSince h
  refine hannounce.bind fun _ s₂ hrun _ => ?_
  obtain ⟨hfiles₂, hturns₂⟩ : s₂.files = s₁.files ∧ s₂.turns = s₁.turns := by
    cases hrun
    exact ⟨rfl, rfl⟩
  have h₂ : Session.FramedTo c cwd s s₂ := h.trans (.of_eq hfiles₂ hturns₂)
  have hleft₂ : s.LeftSince s₂ := by
    obtain ⟨new, t, hnew, ht, hafter⟩ := hleft
    exact ⟨new, t, hturns₂.trans hnew, ht, hafter.trans hfiles₂.symm⟩
  refine (framesSince_compileThrice hhost h₂ hleft₂).bind fun r s₃ hrun₃ hs₃ => ?_
  rcases compileThrice_cases c host.runner cwd s₂ with
    ⟨s', t₁, t₂, t₃, x, y, z, hcompiled, hcontents, hfiles₃, hrun'⟩ | ⟨e, s', hrun', _⟩
  · obtain ⟨hr, rfl⟩ := Prod.mk.inj (hrun₃.symm.trans hrun')
    cases hr
    refine framesSince_conclude hs₃ ?_ (hfiles₃ ▸ hcontents) (hfiles₃ ▸ hcompiled.third.2)
    obtain ⟨new, _, hnew, _⟩ := hleft₂
    refine ⟨new ++ [t₁, t₂, t₃], t₃, ?_, by simp, hfiles₃.symm⟩
    rw [hcompiled.turns, hnew, List.append_assoc]
  · cases hrun₃.symm.trans hrun'

end Fixpoint

namespace Pipeline

omit hhost in
/-- The prelude is generated by a command, and the files are what it left. -/
theorem leftSince_generatePrelude {s s₁ : Session Unit} {p : Path}
    (h : (generatePrelude c host.runner).run cwd s = (.ok p, s₁)) : s.LeftSince s₁ := by
  unfold generatePrelude at h
  obtain ⟨_, s₂, hannounce, hrest⟩ := Task.run_bind_eq_ok_iff.1 h
  obtain ⟨_, s₃, hcommand, hend⟩ := Task.run_bind_eq_ok_iff.1 hrest
  cases hannounce
  cases hend
  obtain ⟨s', hrun, hturns, hfiles⟩ := StageTask.run_command c host.runner
    (c.selectedToolchain.run ⟨c.expander.package, c.preludeGenerator⟩ [c.standardLibrary.text])
    (.file c.preludeFile) cwd _
  obtain rfl := congrArg Prod.snd (hrun.symm.trans hcommand)
  exact ⟨_, _, hturns, List.mem_singleton_self _, hfiles.symm⟩

/-- **The frame of a run.**  However a run ends, every entry is as it was, but those that its outputs
name and new directories on the way to these; and every command whose output goes to a file leaves
that file or, if it fails, nothing. -/
theorem run_frame (cwd : Location) (s : Session Unit) :
    Session.FramedTo c cwd s ((run c host.runner).run cwd s).2 := by
  have hrun : (run c host.runner).FramesSince c cwd s s := by
    unfold run
    have hR : CommandClosed c host cwd (Session.FramedTo c cwd) := commandClosed_framedTo
    refine Task.FramesSince.bind (within_generatePrelude hR hhost s) fun _ s₁ hprelude hs₁ => ?_
    refine ((SelfTest.within_selfTest hR hhost .source).framesSince hs₁).bind fun _ s₂ hsource hs₂ => ?_
    have hleft : s.LeftSince s₂ := (leftSince_generatePrelude hprelude).since
      ((SelfTest.within_selfTest commandClosed_since hhost .source).of_run hsource)
    refine (Fixpoint.framesSince_verify hhost hs₂ hleft).bind fun _ s₃ _ hs₃ => ?_
    refine Task.Within.framesSince ?_ hs₃
    refine (SelfTest.within_selfTest hR hhost .prebuilt).bind hR fun _ => ?_
    refine (within_compileAuxiliaries hR hhost).bind hR fun _ => ?_
    exact ((Task.quiet_log _ _ _ _).within hR).bind hR fun _ => Task.within_pure hR _
  exact hrun

end Pipeline

end

/-! ### A target that is on its own way -/

/-- A toolchain whose programs do nothing and fail. -/
def Host.failing : Host := fun _ _ _ fs => .ok ⟨.exited 1, [], [], fs⟩

theorem Host.sparing_failing (c : Config) : Host.failing.Sparing c := by
  have hspares : ∀ i, Host.failing.Spares i := by
    intro i sink cwd fs run hrun
    cases hrun
    refine ⟨fun _ => rfl, fun _ _ => rfl, fun number file _ hfile => ⟨[], file.time, ?_⟩⟩
    rw [List.append_nil, hfile]
  refine ⟨fun _ _ => hspares _, fun _ _ => hspares _, fun cwd fs run hrun _ => ?_⟩
  cases hrun
  exact .inl (.refl fs)

namespace Pipeline

/-- A prelude whose directory is reached through the prelude itself. -/
def crossedConfig : Config := { Config.standard ⟨"/"⟩ with preludePath := ⟨"x/../x"⟩ }

/-- The frame of a run whose programs print and change nothing. -/
theorem run_frame_printing :
    (Host.printing crossedConfig fun _ => []).Sparing crossedConfig ∧
      Session.FramedTo crossedConfig [] (Session.start .empty ())
        ((run crossedConfig (Host.printing crossedConfig fun _ => []).runner).run []
          (Session.start .empty ())).2 :=
  ⟨Host.sparing_printing _ _, run_frame (Host.sparing_printing _ _) [] _⟩

/-- A run in which the first command fails. -/
def crossedRun : Session Unit :=
  ((run crossedConfig Host.failing.runner).run [] (Session.start .empty ())).2

/-- **A new directory can stand where the output of a failed command should have gone**: the target
named nothing, it is on the way to itself, and the command fails when the way has been made. -/
theorem crossedRun_makes_target :
    Host.failing.Sparing crossedConfig ∧ ∃ t, crossedRun.turns = [t] ∧
      t.call.2 = .file crossedConfig.preludeFile ∧ ¬ t.Succeeded ∧
      t.before.namedPlace? [] crossedConfig.preludeFile = none ∧
      t.before.entryAt? ["x"] = none ∧
      t.after.namedPlace? [] crossedConfig.preludeFile = some ["x"] ∧
      t.after.entryAt? ["x"] = some (.directory 0o755) := by
  refine ⟨Host.sparing_failing _, _, rfl, rfl, ?_, ?_, ?_, ?_, ?_⟩
  · rintro ⟨_, hok⟩
    cases hok
  all_goals decide +kernel

end Pipeline

end Bootstrap
