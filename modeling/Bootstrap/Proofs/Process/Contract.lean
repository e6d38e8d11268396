import Bootstrap.Proofs.FileSystem.Replacing
import Bootstrap.Proofs.Process.Redirect
import Bootstrap.Proofs.Text.Decoding

/-!
# What a runner promises

A program that touches no file itself either cannot be started, or writes to its streams and
ends.  From what it does follows what the runner answers: the first thing that goes wrong
is the error, and if nothing goes wrong the answer carries the output and nothing but the
output.  Of a command that failed nothing is left, but for directories on the way to the
file that its output was to go to.

* `Child`, `Behaviour` — what a program does that touches no file;
* `Behaviour.stagingFault?`, `Behaviour.spawnFault?`, `Behaviour.statusFault?`,
  `Behaviour.outputFault?` — what can go wrong, in this order;
* `Behaviour.Contract` — what the runner answers and leaves;
* `Behaviour.runner_contract` — **every command is answered so**;
* `Behaviour.detour_remains` — a directory that remains where the output was to go.
-/

namespace Bootstrap

open FileSystem

/-- What a program does that touches no file. -/
inductive Child where
  /-- It cannot be started. -/
  | unstarted (e : IoError)
  /-- It writes to its streams and ends. -/
  | ended (status : ExitStatus) (output errorOutput : Bytes)
  deriving DecidableEq, Repr

/-- What a program does that is started, whatever it is told and wherever it is. -/
abbrev Behaviour : Type := Invocation → Sink → Location → FileSystem → Child

namespace Behaviour

variable {b : Behaviour} {i : Invocation} {capture : Capture} {cwd : Location} {fs : FileSystem}
variable {destination : Path} {output : Bytes} {e : ProcessError}

/-- The host on which programs do so: the output of a program goes where it is told to. -/
def host (b : Behaviour) : Host := fun i sink cwd fs =>
  match b i sink cwd fs with
  | .unstarted e => .error e
  | .ended status output errorOutput =>
      match sink with
      | .collected => .ok ⟨status, output, errorOutput, fs⟩
      | .file number => .ok ⟨status, [], errorOutput, fs.appendTo number output⟩

section Faults

variable (b : Behaviour) (i : Invocation) (capture : Capture) (cwd : Location) (fs : FileSystem)

/-- What the program does.  It is started behind the staging file that its output goes to, and not at
all where there is none. -/
def child? : Option Child :=
  match capture with
  | .file destination =>
      match (Staged.create destination).result cwd fs with
      | (.ok staged, ready) => some (b i (.file staged.number) cwd ready)
      | (.error _, _) => none
  | _ => some (b i .collected cwd fs)

/-- What comes of putting the staging file in place when the output was written to it. -/
def placed? (destination : Path) (output : Bytes) : Option (Except IoError Unit) :=
  match (Staged.create destination).result cwd fs with
  | (.ok staged, ready) =>
      some ((staged.persist destination).result cwd (ready.appendTo staged.number output)).1
  | (.error _, _) => none

/-- There is no staging file for the output. -/
def stagingFault? : Option ProcessError :=
  match capture with
  | .file destination =>
      match ((Staged.create destination).result cwd fs).1 with
      | .error e => some (.redirect i.commandLine destination e)
      | .ok _ => none
  | _ => none

/-- The program cannot be started. -/
def spawnFault? : Option ProcessError :=
  match b.child? i capture cwd fs with
  | some (.unstarted e) => some (.spawn i.program.text e)
  | _ => none

/-- The program ends badly: with an exit code, or without one where a signal has killed it. -/
def statusFault? : Option ProcessError :=
  match b.child? i capture cwd fs with
  | some (.ended (.exited code) _ _) =>
      if code = 0 then none else some (.failed i.commandLine (some code))
  | some (.ended (.signaled _) _ _) => some (.failed i.commandLine none)
  | _ => none

/-- The output is no text where it must be, or cannot be put in place. -/
def outputFault? : Option ProcessError :=
  match b.child? i capture cwd fs, capture with
  | some (.ended _ output _), .text =>
      if Text.Utf8.decode? output = none then some (.notText i.commandLine) else none
  | some (.ended _ output _), .file destination =>
      match placed? cwd fs destination output with
      | some (.error e) => some (.redirect i.commandLine destination e)
      | _ => none
  | _, _ => none

/-- The first thing that goes wrong. -/
def fault? : Option ProcessError :=
  ((stagingFault? i capture cwd fs).or (b.spawnFault? i capture cwd fs)).or
    ((b.statusFault? i capture cwd fs).or (b.outputFault? i capture cwd fs))

end Faults

/-- What is left of a command that failed. -/
def Leaves (cwd : Location) (fs after : FileSystem) : Capture → Prop
  | .file destination => LeavesNothing cwd destination fs after
  | _ => after = fs

/-- What an answer carries of the output: all of it, as text, as bytes or as the content of a new
file. -/
def Carries (cwd : Location) (fs : FileSystem) (output : Bytes) (o : Output) (after : FileSystem) :
    Capture → Prop
  | .inherit => o = .inherited
  | .text => ∃ text, o = .text text ∧ Text.Utf8.encode text = output
  | .bytes => o = .bytes output
  | .file destination => o = .file destination ∧
      ∃ parent name, Placed (Staged.ground destination cwd fs) after cwd destination parent name output
        stagingMode

/-- All entries are what they were, but for new directories on the way to the destination. -/
theorem Leaves.entry {after : FileSystem} (h : Leaves cwd fs after capture) (place : Location) :
    after.entryAt? place = fs.entryAt? place ∨
      fs.entryAt? place = none ∧ after.HoldsDirectory place ∧
        ∃ destination, capture = .file destination ∧
          ∃ q ∈ (Staged.directoryOf destination).ancestors, after.reach cwd q = .ok place := by
  cases capture with
  | file destination =>
      rcases LeavesNothing.entry h place with hsame | ⟨hnone, hdirectory, hway⟩
      · exact .inl hsame
      · exact .inr ⟨hnone, hdirectory, destination, rfl, hway⟩
  | _ => exact .inl (congrArg (FileSystem.entryAt? · place) h)

/-- **What a runner promises.** -/
structure Contract (b : Behaviour) (i : Invocation) (capture : Capture) (cwd : Location)
    (fs : FileSystem) (reply : Reply Unit) : Prop where
  /-- A command succeeds if the program was started and ended well, its output is text where it must
  be, and was put in place where it goes to a file; and only then. -/
  succeeds : (∃ o, reply.result = .ok o) ↔
    ∃ output errorOutput,
      b.child? i capture cwd fs = some (.ended (.exited 0) output errorOutput) ∧
        (capture = .text → ∃ text, Text.Utf8.encode text = output) ∧
        ∀ destination, capture = .file destination → placed? cwd fs destination output = some (.ok ())
  /-- The answer carries what the program has written. -/
  carries : ∀ o, reply.result = .ok o → ∃ output errorOutput,
    b.child? i capture cwd fs = some (.ended (.exited 0) output errorOutput) ∧
      Carries cwd fs output o reply.files capture
  /-- The error is the first thing that went wrong. -/
  fault : ∀ e, reply.result = .error e ↔ b.fault? i capture cwd fs = some e
  /-- Where there is no staging file no program is started: no host has a say in the answer. -/
  unstarted : ∀ e, stagingFault? i capture cwd fs = some e →
    ∀ other : Host, other.runner i capture cwd fs () = reply
  /-- Of a command that failed nothing is left. -/
  leaves : ∀ e, reply.result = .error e → Leaves cwd fs reply.files capture
  /-- All entries are what they were, but for new directories on the way to the destination. -/
  entries : ∀ e, reply.result = .error e → ∀ place,
    reply.files.entryAt? place = fs.entryAt? place ∨
      fs.entryAt? place = none ∧ reply.files.HoldsDirectory place ∧
        ∃ destination, capture = .file destination ∧
          ∃ q ∈ (Staged.directoryOf destination).ancestors, reply.files.reach cwd q = .ok place

/-- **The two ends of a command.** -/
inductive Ends (b : Behaviour) (i : Invocation) (capture : Capture) (cwd : Location)
    (fs : FileSystem) (reply : Reply Unit) : Prop
  /-- Something went wrong. -/
  | failed {e : ProcessError} (result : reply.result = .error e)
      (fault : b.fault? i capture cwd fs = some e) (leaves : Leaves cwd fs reply.files capture)
  /-- Nothing went wrong. -/
  | succeeded {o : Output} {output errorOutput : Bytes} (result : reply.result = .ok o)
      (fault : b.fault? i capture cwd fs = none)
      (child : b.child? i capture cwd fs = some (.ended (.exited 0) output errorOutput))
      (carries : Carries cwd fs output o reply.files capture)

section Faults

variable {c : Child} {status : ExitStatus} {errorOutput : Bytes} {e : IoError}

/-- A program that does anything has its staging file where it needs one. -/
theorem stagingFault?_of_child (h : b.child? i capture cwd fs = some c) :
    stagingFault? i capture cwd fs = none := by
  cases capture with
  | file destination =>
      unfold child? at h
      unfold stagingFault?
      rcases hcreate : (Staged.create destination).result cwd fs with ⟨e | staged, ready⟩
      · simp [hcreate] at h
      · simp [hcreate]
  | _ => rfl

theorem fault?_of_unstarted (h : b.child? i capture cwd fs = some (.unstarted e)) :
    b.fault? i capture cwd fs = some (.spawn i.program.text e) := by
  simp [fault?, stagingFault?_of_child h, spawnFault?, h]

theorem fault?_of_bad_status
    (h : b.child? i capture cwd fs = some (.ended status output errorOutput))
    (hstatus : status.isSuccess = false) :
    b.fault? i capture cwd fs = some (.failed i.commandLine status.code?) := by
  cases status with
  | exited code =>
      have hcode : code ≠ 0 := by
        rintro rfl
        cases hstatus
      simp [fault?, stagingFault?_of_child h, spawnFault?, statusFault?, h, hcode, ExitStatus.code?]
  | signaled signal =>
      simp [fault?, stagingFault?_of_child h, spawnFault?, statusFault?, h, ExitStatus.code?]

theorem fault?_of_success
    (h : b.child? i capture cwd fs = some (.ended (.exited 0) output errorOutput)) :
    b.fault? i capture cwd fs = b.outputFault? i capture cwd fs := by
  simp [fault?, stagingFault?_of_child h, spawnFault?, statusFault?, h]

end Faults

theorem eq_exited_of_isSuccess {status : ExitStatus} (h : status.isSuccess = true) :
    status = .exited 0 := by
  unfold ExitStatus.isSuccess at h
  exact beq_iff_eq.1 h

/-- The output can be taken as it is to be. -/
theorem outputFault?_eq_none_iff {errorOutput : Bytes}
    (h : b.child? i capture cwd fs = some (.ended (.exited 0) output errorOutput)) :
    b.outputFault? i capture cwd fs = none ↔
      (capture = .text → ∃ text, Text.Utf8.encode text = output) ∧
        ∀ destination, capture = .file destination →
          placed? cwd fs destination output = some (.ok ()) := by
  unfold outputFault?
  rw [h]
  cases capture with
  | inherit => simp
  | bytes => simp
  | text =>
      simp [Text.Utf8.decode?_eq_none_iff]
  | file destination =>
      unfold child? at h
      rcases hcreate : (Staged.create destination).result cwd fs with ⟨e | staged, ready⟩
      · simp [hcreate] at h
      · rcases hpersist : ((staged.persist destination).result cwd
          (ready.appendTo staged.number output)).1 with e | ⟨⟩ <;> simp [placed?, hcreate, hpersist]

/-- A command whose output is not redirected. -/
theorem ends_collected (hcapture : ∀ destination, capture ≠ .file destination) :
    Ends b i capture cwd fs (b.host.runCollected i capture cwd fs) := by
  have hchild? : b.child? i capture cwd fs = some (b i .collected cwd fs) := by
    cases capture <;> first | rfl | exact (hcapture _ rfl).elim
  have hleaves : Leaves cwd fs fs capture := by
    cases capture <;> first | rfl | exact (hcapture _ rfl).elim
  cases hchild : b i .collected cwd fs with
  | unstarted e =>
      rw [hchild] at hchild?
      refine .failed ?_ (fault?_of_unstarted hchild?) ?_
      · simp [Host.runCollected, host, hchild, Host.spawnError]
      · simpa [Host.runCollected, host, hchild] using hleaves
  | ended status output errorOutput =>
      rw [hchild] at hchild?
      have hfiles : (b.host.runCollected i capture cwd fs).files = fs := by
        simp only [Host.runCollected, host, hchild]
        split <;> rfl
      have hleft : Leaves cwd fs (b.host.runCollected i capture cwd fs).files capture := by
        rw [hfiles]
        exact hleaves
      cases hsuccess : status.isSuccess with
      | false =>
          refine .failed ?_ (fault?_of_bad_status hchild? hsuccess) hleft
          simp [Host.runCollected, host, hchild, hsuccess, Host.statusError]
      | true =>
          obtain rfl := eq_exited_of_isSuccess hsuccess
          have hresult : (b.host.runCollected i capture cwd fs).result =
              (Host.collected i capture output).1 := by
            simp [Host.runCollected, host, hchild, hsuccess]
          have hfault := fault?_of_success hchild?
          cases capture with
          | file destination => exact (hcapture _ rfl).elim
          | inherit =>
              have hnone := (outputFault?_eq_none_iff hchild?).2 ⟨by simp, by simp⟩
              exact .succeeded hresult (hfault.trans hnone) hchild? rfl
          | bytes =>
              have hnone := (outputFault?_eq_none_iff hchild?).2 ⟨by simp, by simp⟩
              exact .succeeded hresult (hfault.trans hnone) hchild? rfl
          | text =>
              cases hdecode : Text.Utf8.decode? output with
              | none =>
                  refine .failed ?_ (e := .notText i.commandLine) ?_ hleft
                  · rw [hresult]
                    simp [Host.collected, hdecode]
                  · rw [hfault]
                    unfold outputFault?
                    rw [hchild?]
                    simp [hdecode]
              | some text =>
                  have htext := Text.Utf8.decode?_eq_some_iff.1 hdecode
                  have hnone := (outputFault?_eq_none_iff hchild?).2 ⟨fun _ => ⟨text, htext⟩, by simp⟩
                  refine .succeeded (o := .text text) ?_ (hfault.trans hnone) hchild? ⟨text, rfl, htext⟩
                  rw [hresult]
                  simp [Host.collected, hdecode]

/-- Where there is no staging file the answer is there before any program could be started. -/
theorem runRedirected_of_unstaged {e : IoError} {ready : FileSystem}
    (hcreate : (Staged.create destination).result cwd fs = (.error e, ready)) (host : Host) :
    host.runRedirected i destination cwd fs =
      ⟨.error (.redirect i.commandLine destination e), ready, (), [Host.startNote i]⟩ := by
  obtain ⟨houtcome, hfiles⟩ := Prod.mk.inj hcreate
  simp [Host.runRedirected, houtcome, hfiles]

/-- A command whose output is redirected. -/
theorem ends_redirected :
    Ends b i (.file destination) cwd fs (b.host.runRedirected i destination cwd fs) := by
  rcases hcreate : (Staged.create destination).result cwd fs with ⟨e | staged, ready⟩
  · rw [runRedirected_of_unstaged hcreate]
    refine .failed rfl ?_ ?_
    · simp [fault?, stagingFault?, hcreate]
    · have hground : Staged.ground destination cwd fs = ready := Staged.create_eq_error hcreate
      exact leavesNothing_of_restored (hground ▸ .refl ready)
  obtain ⟨made, parent, name, hdirectories, hholds⟩ := Staged.create_eq_ok hcreate
  obtain rfl : Staged.ground destination cwd fs = made := by
    rw [Staged.ground, hdirectories]
  have hchild? : b.child? i (.file destination) cwd fs =
      some (b i (.file staged.number) cwd ready) := by
    simp [child?, hcreate]
  have hdropped : ∀ {now content mode},
      staged.Holds (Staged.ground destination cwd fs) now cwd parent name content mode →
        LeavesNothing cwd destination fs (staged.drop.result cwd now).2 := by
    intro now content mode hnow
    obtain ⟨after, hdrop, hrestored⟩ := hnow.drop
    rw [hdrop]
    exact leavesNothing_of_restored hrestored
  obtain ⟨houtcome, hfiles⟩ := Prod.mk.inj hcreate
  cases hchild : b i (.file staged.number) cwd ready with
  | unstarted e =>
      rw [hchild] at hchild?
      refine .failed ?_ (fault?_of_unstarted hchild?) ?_
      · simp [Host.runRedirected, houtcome, hfiles, host, hchild, Host.spawnError]
      · simp only [Host.runRedirected, houtcome, hfiles, host, hchild]
        exact hdropped hholds
  | ended status output errorOutput =>
      rw [hchild] at hchild?
      have hwritten : staged.Holds (Staged.ground destination cwd fs)
          (ready.appendTo staged.number output) cwd parent name output stagingMode := by
        obtain ⟨now, hnow, hwritten⟩ := hholds.append output
        cases hnow
        exact hwritten
      cases hsuccess : status.isSuccess with
      | false =>
          refine .failed ?_ (fault?_of_bad_status hchild? hsuccess) ?_
          · simp [Host.runRedirected, houtcome, hfiles, host, hchild, hsuccess, Host.statusError]
          · simp only [Host.runRedirected, houtcome, hfiles, host, hchild, hsuccess]
            exact hdropped hwritten
      | true =>
          obtain rfl := eq_exited_of_isSuccess hsuccess
          rcases hpersist : (staged.persist destination).result cwd
              (ready.appendTo staged.number output) with ⟨e | ⟨⟩, after⟩
          · obtain ⟨houtcome', hfiles'⟩ := Prod.mk.inj hpersist
            refine .failed ?_ (e := .redirect i.commandLine destination e) ?_ ?_
            · simp [Host.runRedirected, houtcome, hfiles, host, hchild, hsuccess, houtcome']
            · rw [fault?_of_success hchild?]
              unfold outputFault?
              rw [hchild?]
              simp [placed?, hcreate, hpersist]
            · simp only [Host.runRedirected, houtcome, hfiles, host, hchild, hsuccess, houtcome',
                hfiles', Staged.persist_eq_error hpersist]
              exact hdropped hwritten
          · obtain ⟨houtcome', hfiles'⟩ := Prod.mk.inj hpersist
            obtain ⟨parent', name', hplaced⟩ := hwritten.persist_eq_ok hpersist
            refine .succeeded (o := .file destination) ?_ ?_ hchild? ⟨rfl, parent', name', ?_⟩
            · simp [Host.runRedirected, houtcome, hfiles, host, hchild, hsuccess, houtcome']
            · rw [fault?_of_success hchild?]
              refine (outputFault?_eq_none_iff hchild?).2 ⟨by simp, ?_⟩
              rintro _ ⟨⟩
              simp [placed?, hcreate, hpersist]
            · simp only [Host.runRedirected, houtcome, hfiles, host, hchild, hsuccess, houtcome',
                hfiles']
              exact hplaced

/-- **A command comes to one of two ends.** -/
theorem ends_runner (b : Behaviour) (i : Invocation) (capture : Capture) (cwd : Location)
    (fs : FileSystem) : Ends b i capture cwd fs (b.host.runner i capture cwd fs ()) := by
  cases capture with
  | file destination => exact ends_redirected
  | _ => exact ends_collected (by simp)

/-- A program that does nothing has no staging file. -/
theorem exists_stagingFault?_of_none (h : b.child? i capture cwd fs = none) :
    ∃ e, stagingFault? i capture cwd fs = some e := by
  cases capture with
  | file destination =>
      unfold child? at h
      unfold stagingFault?
      rcases hcreate : (Staged.create destination).result cwd fs with ⟨e | staged, ready⟩
      · exact ⟨.redirect i.commandLine destination e, by simp only [hcreate]⟩
      · simp [hcreate] at h
  | _ => cases h

/-- Nothing goes wrong with a program that ends well and whose output can be taken as it is to be. -/
theorem fault?_eq_none_iff : b.fault? i capture cwd fs = none ↔
    ∃ output errorOutput,
      b.child? i capture cwd fs = some (.ended (.exited 0) output errorOutput) ∧
        (capture = .text → ∃ text, Text.Utf8.encode text = output) ∧
        ∀ destination, capture = .file destination →
          placed? cwd fs destination output = some (.ok ()) := by
  constructor
  · intro hnone
    cases hchild : b.child? i capture cwd fs with
    | none =>
        obtain ⟨e, hfault⟩ := exists_stagingFault?_of_none hchild
        simp [fault?, hfault] at hnone
    | some child =>
        cases child with
        | unstarted e =>
            rw [fault?_of_unstarted hchild] at hnone
            cases hnone
        | ended status output errorOutput =>
            cases hsuccess : status.isSuccess with
            | false =>
                rw [fault?_of_bad_status hchild hsuccess] at hnone
                cases hnone
            | true =>
                obtain rfl := eq_exited_of_isSuccess hsuccess
                rw [fault?_of_success hchild] at hnone
                exact ⟨output, errorOutput, rfl, (outputFault?_eq_none_iff hchild).1 hnone⟩
  · rintro ⟨output, errorOutput, hchild, houtput⟩
    rw [fault?_of_success hchild]
    exact (outputFault?_eq_none_iff hchild).2 houtput

/-- **Every command is answered so.** -/
theorem runner_contract (b : Behaviour) (i : Invocation) (capture : Capture) (cwd : Location)
    (fs : FileSystem) : Contract b i capture cwd fs (b.host.runner i capture cwd fs ()) where
  succeeds := by
    rw [← fault?_eq_none_iff]
    cases ends_runner b i capture cwd fs with
    | failed result fault _ => simp [result, fault]
    | succeeded result fault _ _ => simp [result, fault]
  carries := by
    intro o hresult
    cases ends_runner b i capture cwd fs with
    | failed result _ _ =>
        rw [result] at hresult
        cases hresult
    | succeeded result _ child carries =>
        rw [result] at hresult
        cases hresult
        exact ⟨_, _, child, carries⟩
  fault := by
    intro e
    cases ends_runner b i capture cwd fs with
    | failed result fault _ => simp [result, fault]
    | succeeded result fault _ _ => simp [result, fault]
  unstarted := by
    intro e hfault other
    cases capture with
    | file destination =>
        rcases hcreate : (Staged.create destination).result cwd fs with ⟨e | staged, ready⟩
        · exact (runRedirected_of_unstaged hcreate other).trans
            (runRedirected_of_unstaged hcreate b.host).symm
        · simp [stagingFault?, hcreate] at hfault
    | _ => cases hfault
  leaves := by
    intro e hresult
    cases ends_runner b i capture cwd fs with
    | failed _ _ leaves => exact leaves
    | succeeded result _ _ _ =>
        rw [result] at hresult
        cases hresult
  entries := by
    intro e hresult place
    cases ends_runner b i capture cwd fs with
    | failed _ _ leaves => exact leaves.entry place
    | succeeded result _ _ _ =>
        rw [result] at hresult
        cases hresult

/-- A command that fails behind the directories on the way from `x` back to `x`. -/
def detourReply : Reply Unit :=
  (host fun _ _ _ _ => .ended (.exited 1) [] []).runner (.ofProgram ⟨"false"⟩) (.file ⟨"x/../x"⟩) []
    .empty ()

/-- **A directory can remain where the output was to go**: it was made on the way there. -/
theorem detour_remains :
    detourReply.result = .error (.failed "false" (some 1)) ∧
      (Staged.ground ⟨"x/../x"⟩ [] .empty).Names [] ⟨"x/../x"⟩ [] "x" ∧
      FileSystem.empty.entryAt? ["x"] = none ∧
      detourReply.files.entryAt? ["x"] = some (.directory 0o755) := by
  refine ⟨?_, eq_ok_of_toOption (by decide +kernel), by decide +kernel, by decide +kernel⟩
  have hfault : fault? (fun _ _ _ _ => .ended (.exited 1) [] []) (.ofProgram ⟨"false"⟩)
      (.file ⟨"x/../x"⟩) [] .empty = some (.failed "false" (some 1)) := by
    decide +kernel
  cases ends_runner (fun _ _ _ _ => .ended (.exited 1) [] []) (.ofProgram ⟨"false"⟩)
      (.file ⟨"x/../x"⟩) [] .empty with
  | failed result fault _ =>
      rw [hfault] at fault
      cases fault
      exact result
  | succeeded _ fault _ _ =>
      rw [hfault] at fault
      cases fault

end Behaviour

end Bootstrap
