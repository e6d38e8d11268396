import Bootstrap.Proofs.Artifact.Content

/-!
# Comparing artifacts

Two artifacts are compared chunk by chunk.  The first one is read as it comes, and of the
second one as many bytes are read as the first one gave:

    x   |----|--------|-|------|        reads of any sizes
    y   |----|--------|-|------|        reads of the same sizes

Files of one length end together, so no read of the second one falls short, and the
answer is whether the bytes are the same.  What stands in the way of an answer is a path
that leads to nothing, or a file of the same length that may not be read.

* `Compares` — what a comparison comes to;
* `identicalBy_compares` — **comparing artifacts is comparing bytes**.
-/

namespace Bootstrap.Artifact

open FileSystem

variable {cwd : Location} {fs : FileSystem} {a b : Artifact} {x y : Bytes} {m m' : Nat}
variable {entry : Entry} {e : IoError} {sizes : Nat → Nat}

/-- The path of the artifact leads to an entry. -/
def LeadsTo (a : Artifact) (cwd : Location) (fs : FileSystem) (entry : Entry) : Prop :=
  (FileOp.stat a.path).result cwd fs = (.ok entry, fs)

/-- The path of the artifact leads to nothing, for some reason. -/
def LeadsNowhere (a : Artifact) (cwd : Location) (fs : FileSystem) (e : IoError) : Prop :=
  (FileOp.stat a.path).result cwd fs = (.error e, fs)

/-- Whether the owner may read a file with these permission bits. -/
def isReadable (m : Nat) : Bool := (Entry.file [] m).allows 4

/-- A file can be read exactly if its bits allow it. -/
theorem result_content_of_file (h : a.LeadsTo cwd fs (.file x m)) :
    a.content.result cwd fs =
      (if isReadable m then .ok x else .error (.read a.path (.os .accessDenied)), fs) := by
  obtain ⟨hnull, hstat, _⟩ := FileOp.result_stat_eq_ok_iff.1 h
  have hallows : (Entry.file x m).allows 4 = isReadable m := rfl
  have hread : fs.read cwd a.path = if isReadable m then .ok x else .error .accessDenied := by
    unfold FileSystem.read
    rw [hstat]
    change (if !(Entry.file x m).allows 4 then Except.error Errno.accessDenied
      else Except.ok x) = _
    rw [hallows]
    cases isReadable m with
    | false => rfl
    | true => rfl
  rw [result_content, hnull, if_neg (by decide), hread]
  cases isReadable m with
  | false => rfl
  | true => rfl

/-- **What a comparison comes to.** -/
structure Compares (sizes : Nat → Nat) (a b : Artifact) (cwd : Location) (fs : FileSystem) :
    Prop where
  /-- Files of different lengths differ, and nothing else is asked of them. -/
  lengths : ∀ x y m m', a.LeadsTo cwd fs (.file x m) → b.LeadsTo cwd fs (.file y m') →
    x.length ≠ y.length → (a.identicalBy sizes b).result cwd fs = (.ok false, fs)
  /-- Files that may be read are compared byte for byte. -/
  bytes : ∀ x y m m', a.LeadsTo cwd fs (.file x m) → b.LeadsTo cwd fs (.file y m') →
    isReadable m = true → isReadable m' = true →
    (a.identicalBy sizes b).result cwd fs = (.ok (decide (x = y)), fs)
  /-- Of files of one length the first that may not be read is named. -/
  unreadable : ∀ x y m m', a.LeadsTo cwd fs (.file x m) → b.LeadsTo cwd fs (.file y m') →
    x.length = y.length → (isReadable m && isReadable m') = false →
    (a.identicalBy sizes b).result cwd fs =
      (.error (.read (if isReadable m then b.path else a.path) (.os .accessDenied)), fs)
  /-- The first path that leads to nothing is named. -/
  first : ∀ e, a.LeadsNowhere cwd fs e →
    (a.identicalBy sizes b).result cwd fs = (.error (.read a.path e), fs)
  second : ∀ entry e, a.LeadsTo cwd fs entry → b.LeadsNowhere cwd fs e →
    (a.identicalBy sizes b).result cwd fs = (.error (.read b.path e), fs)

/-- A file of the same length that may not be read stops the comparison. -/
theorem identicalBy_of_unreadable (ha : a.LeadsTo cwd fs (.file x m))
    (hb : b.LeadsTo cwd fs (.file y m')) (hlength : x.length = y.length)
    (hbits : (isReadable m && isReadable m') = false) :
    (a.identicalBy sizes b).result cwd fs =
      (.error (.read (if isReadable m then b.path else a.path) (.os .accessDenied)), fs) := by
  have hfirst := result_content_of_file ha
  have hsecond := result_content_of_file hb
  have hsize : (Entry.file x m).size = (Entry.file y m').size := hlength
  rw [identicalBy_of_entries sizes ha hb, if_neg (not_not_intro hsize)]
  unfold sameContent
  cases hm : isReadable m with
  | false =>
      rw [hm, if_neg (by decide)] at hfirst
      exact FileOp.result_bind_of_error hfirst
  | true =>
      rw [hm, Bool.true_and] at hbits
      rw [hm, if_pos rfl] at hfirst
      rw [hbits, if_neg (by decide)] at hsecond
      rw [FileOp.result_bind_of_ok hfirst]
      exact FileOp.result_bind_of_error hsecond

theorem identicalBy_of_first_nowhere (h : a.LeadsNowhere cwd fs e) :
    (a.identicalBy sizes b).result cwd fs = (.error (.read a.path e), fs) := by
  have hfirst : a.entry.result cwd fs = (.error (.read a.path e), fs) := by
    rw [result_entry, h]
    rfl
  exact FileOp.result_bind_of_error hfirst

theorem identicalBy_of_second_nowhere (ha : a.LeadsTo cwd fs entry)
    (hb : b.LeadsNowhere cwd fs e) :
    (a.identicalBy sizes b).result cwd fs = (.error (.read b.path e), fs) := by
  have hfirst : a.entry.result cwd fs = (.ok entry, fs) := by
    rw [result_entry, ha]
    rfl
  have hsecond : b.entry.result cwd fs = (.error (.read b.path e), fs) := by
    rw [result_entry, hb]
    rfl
  unfold identicalBy
  rw [FileOp.result_bind_of_ok hfirst]
  exact FileOp.result_bind_of_error hsecond

/-- **Comparing artifacts is comparing bytes**, however the reads of the first one fall. -/
theorem identicalBy_compares (sizes : Nat → Nat) (a b : Artifact) (cwd : Location)
    (fs : FileSystem) : Compares sizes a b cwd fs where
  lengths := by
    intro x y m m' ha hb hlength
    have hsize : (Entry.file x m).size ≠ (Entry.file y m').size := hlength
    rw [identicalBy_of_entries sizes ha hb, if_pos hsize]
  bytes := by
    intro x y m m' ha hb hm hm'
    have hx := result_content_of_file ha
    have hy := result_content_of_file hb
    rw [hm, if_pos rfl] at hx
    rw [hm', if_pos rfl] at hy
    exact identicalBy_of_read sizes hx hy
  unreadable := fun _ _ _ _ ha hb hlength hbits => identicalBy_of_unreadable ha hb hlength hbits
  first := fun _ h => identicalBy_of_first_nowhere h
  second := fun _ _ ha hb => identicalBy_of_second_nowhere ha hb

/-- Two files with the same byte; the owner may not read the first one. -/
def lockedFiles : FileSystem where
  nodes := [(["build"], .directory 0o755 0), (["build", "b.ofta"], .file 0),
    (["build", "b-2.ofta"], .file 1)]
  files := [(0, ⟨[1], 0, 0⟩), (1, ⟨[1], 0o644, 0⟩)]
  now := 0

/-- The artifact of a store in the root directory. -/
def lockedArtifact (variant : Option Nat) : Artifact :=
  (ArtifactStore.mk ⟨"/"⟩).resolve ⟨⟨""⟩, "b"⟩ variant

theorem lockedArtifact_leadsTo :
    (lockedArtifact none).LeadsTo [] lockedFiles (.file [1] 0) ∧
      (lockedArtifact (some 2)).LeadsTo [] lockedFiles (.file [1] 0o644) := by
  have hleads : ∀ {variant entry}, (lockedArtifact variant).path.hasNull = false →
      (lockedFiles.stat [] (lockedArtifact variant).path).toOption = some entry →
      (lockedArtifact variant).LeadsTo [] lockedFiles entry := fun hnull hstat =>
    FileOp.result_stat_eq_ok_iff.2 ⟨hnull, eq_ok_of_toOption hstat, rfl⟩
  exact ⟨hleads (by decide +kernel) (by decide +kernel), hleads (by decide +kernel) (by decide +kernel)⟩

/-- **Not all files can be compared.**  Of two files of one length the first may not be read. -/
theorem lockedArtifact_not_compared :
    ¬ ∀ sizes a b cwd fs x y m m', Artifact.LeadsTo a cwd fs (.file x m) →
      Artifact.LeadsTo b cwd fs (.file y m') →
      (a.identicalBy sizes b).result cwd fs = (.ok (decide (x = y)), fs) := by
  intro hall
  obtain ⟨ha, hb⟩ := lockedArtifact_leadsTo
  have hcompared := hall (fun _ => chunkLimit) _ _ _ _ _ _ _ _ ha hb
  rw [identicalBy_of_unreadable ha hb rfl (by decide)] at hcompared
  cases hcompared

/-- An artifact that may be read is the same as itself, and one behind it that is not there is named. -/
theorem lockedArtifact_compares :
    ((lockedArtifact (some 2)).identicalBy (fun turn => turn) (lockedArtifact (some 2))).result []
        lockedFiles = (.ok true, lockedFiles) ∧
      ∃ e, ((lockedArtifact none).identicalBy (fun turn => turn) (lockedArtifact (some 3))).result []
        lockedFiles = (.error (.read (lockedArtifact (some 3)).path e), lockedFiles) := by
  obtain ⟨ha, hb⟩ := lockedArtifact_leadsTo
  obtain ⟨e, he⟩ := eq_error_of_toOption
    (show (lockedFiles.stat [] (lockedArtifact (some 3)).path).toOption = none by decide +kernel)
  have hnowhere : (lockedArtifact (some 3)).LeadsNowhere [] lockedFiles (.os e) := by
    unfold LeadsNowhere
    rw [FileOp.result_stat, if_neg (by decide +kernel), he]
    rfl
  exact ⟨(identicalBy_compares _ _ _ [] lockedFiles).bytes _ _ _ _ hb hb (by decide) (by decide),
    _, (identicalBy_compares _ _ _ [] lockedFiles).second _ _ ha hnowhere⟩

end Bootstrap.Artifact
