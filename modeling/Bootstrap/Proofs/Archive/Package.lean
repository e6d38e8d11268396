import Bootstrap.Proofs.Archive.Tape
import Bootstrap.Proofs.FileSystem.Absolute
import Bootstrap.Proofs.FileSystem.Growth

/-!
# What packing comes to

The archive is filled while its staging file stands beside everything that was there.  So
every member is what its path led to at one and the same moment, and only the archive
itself is new when all is done.

* `ArchiveSpec.Packs` — members and their blocks for things found on a walk;
* `ArchiveSpec.Packed` — a finished archive;
* `ArchiveSpec.make_eq_ok`, `ArchiveSpec.make_eq_ok_report` — packing that succeeds has made one, and
  reports its size.
-/

namespace Bootstrap

open FileSystem

variable {σ : Type} {cwd : Location} {fs fs' : FileSystem}

namespace Tree

variable {x y : Location × Entry} {rest : List (Location × Entry)}

theorem mem_insert : x ∈ insert y rest ↔ x = y ∨ x ∈ rest := by
  induction rest with
  | nil => simp [insert]
  | cons z rest ih =>
      unfold insert
      split
      · simp
      · rw [List.mem_cons, ih, List.mem_cons]
        exact or_left_comm

/-- Sorting neither adds nor loses anything. -/
theorem mem_listing_iff {place : Location} : x ∈ listing fs place ↔ x ∈ fs.below place := by
  unfold listing
  induction fs.below place with
  | nil => exact Iff.rfl
  | cons y rest ih => rw [List.foldr_cons, mem_insert, ih, List.mem_cons]

end Tree

namespace FileOp

variable {path name : Path} {m : Tar.Member}

theorem looks_member (path name : Path) : (member path name).Looks := by
  unfold member
  refine ((looks_look _).mapError _).bind fun entry => ?_
  split
  · exact (looks_look _).bind fun _ => looks_pure _
  · split
    · exact looks_pure _
    · exact looks_fail

/-- **What becomes of a path that is stored**: a file with its content, or a directory. -/
theorem member_cases (h : (member path name).result cwd fs = (.ok m, fs')) :
    ∃ entry, fs.stat cwd path = .ok entry ∧
      ((∃ content mode, entry = .file content mode ∧
          m = ⟨name, .file, entry.isExecutable, content⟩) ∨
        ∃ mode, entry = .directory mode ∧ m = ⟨name, .directory, true, []⟩) := by
  unfold member at h
  obtain ⟨entry, middle, hstat, h⟩ := result_bind_eq_ok_iff.1 h
  rw [result_mapError, result_look] at hstat
  cases hentry : fs.stat cwd path with
  | error e =>
      rw [hentry] at hstat
      cases hstat
  | ok found =>
      rw [hentry] at hstat
      cases hstat
      refine ⟨entry, rfl, ?_⟩
      cases entry with
      | file content mode =>
          obtain ⟨read, middle, hread, h⟩ := result_bind_eq_ok_iff.1 h
          rw [result_look] at hread
          cases h
          cases hcontent : fs.read cwd path with
          | error e =>
              rw [hcontent] at hread
              cases hread
          | ok x =>
              rw [hcontent] at hread
              cases hread
              obtain ⟨entry, hentry', _, ⟨_, rfl⟩ | ⟨_, ⟨_, _, rfl⟩ | ⟨_, rfl⟩⟩⟩ :=
                read_eq_ok_iff.1 hcontent <;> cases hentry.symm.trans hentry'
              exact .inl ⟨_, _, rfl, rfl⟩
      | directory mode =>
          cases h
          exact .inr ⟨mode, rfl, rfl⟩
      | _ => cases h

/-- A member has the name that it was given, and the content of the file that the path led to. -/
theorem member_eq_ok (h : (member path name).result cwd fs = (.ok m, fs')) :
    m.name = name ∧ ∃ entry, fs.stat cwd path = .ok entry ∧
      ∀ content mode, entry = .file content mode → m.kind = .file ∧ m.content = content := by
  obtain ⟨entry, hstat, ⟨content, mode, rfl, rfl⟩ | ⟨mode, rfl, rfl⟩⟩ := member_cases h
  · refine ⟨rfl, _, hstat, ?_⟩
    rintro _ _ heq
    cases heq
    exact ⟨rfl, rfl⟩
  · exact ⟨rfl, _, hstat, nofun⟩

theorem memberBlocks_eq_ok {blocks : Bytes}
    (h : (memberBlocks path name).result cwd fs = (.ok blocks, fs')) :
    fs' = fs ∧ ∃ m, (member path name).result cwd fs = (.ok m, fs) ∧ m.encode = .ok blocks := by
  unfold memberBlocks at h
  obtain ⟨m, middle, hmember, hblocks⟩ := result_bind_eq_ok_iff.1 h
  have hlooks := looks_member path name cwd fs
  rw [hmember] at hlooks
  obtain rfl : middle = fs := hlooks
  cases hencode : m.encode with
  | error e =>
      simp only [hencode] at hblocks
      cases hblocks
  | ok encoded =>
      simp only [hencode] at hblocks
      cases hblocks
      exact ⟨rfl, m, hmember, hencode⟩

end FileOp

namespace ArchiveSpec

variable {spec : ArchiveSpec} {s s' : Session σ} {founds founds' : List Found}
variable {members members' : List Tar.Member} {blocks blocks' : List Bytes}

/-- A step of packing changes the files and issues no command. -/
theorem run_writing_eq_ok {α : Type} {op : FileOp IoError α} {a : α}
    (h : (spec.writing op).run cwd s = (.ok a, s')) :
    op.result cwd s.files = (.ok a, s'.files) ∧ s'.turns = s.turns := by
  unfold writing at h
  rw [Task.run_onFiles, FileOp.result_mapError] at h
  rcases hresult : op.result cwd s.files with ⟨e | b, after⟩
  · rw [hresult] at h
    cases h
  · rw [hresult] at h
    cases h
    exact ⟨rfl, rfl⟩

/-- A step that only looks leaves the files as well. -/
theorem run_writing_of_looks {α : Type} {op : FileOp IoError α} {a : α} (hlooks : op.Looks)
    (h : (spec.writing op).run cwd s = (.ok a, s')) :
    op.result cwd s.files = (.ok a, s.files) ∧ s'.files = s.files ∧ s'.turns = s.turns := by
  obtain ⟨hresult, hturns⟩ := run_writing_eq_ok h
  have hfiles := hlooks cwd s.files
  rw [hresult] at hfiles
  exact ⟨by rw [hresult, ← hfiles], hfiles, hturns⟩

/-- Members and their blocks for things that were found. -/
structure Packs (cwd : Location) (fs : FileSystem) (founds : List Found)
    (members : List Tar.Member) (blocks : List Bytes) : Prop where
  stored : founds.map (fun found => (FileOp.member found.path found.name).result cwd fs) =
    members.map fun m => (.ok m, fs)
  encoded : members.map Tar.Member.encode = blocks.map .ok

namespace Packs

theorem nil (cwd : Location) (fs : FileSystem) : Packs cwd fs [] [] [] := ⟨rfl, rfl⟩

theorem append (h : Packs cwd fs founds members blocks) (h' : Packs cwd fs founds' members' blocks') :
    Packs cwd fs (founds ++ founds') (members ++ members') (blocks ++ blocks') where
  stored := by rw [List.map_append, h.stored, h'.stored, List.map_append]
  encoded := by rw [List.map_append, h.encoded, h'.encoded, List.map_append]

theorem singleton {found : Found} {m : Tar.Member} {block : Bytes}
    (hmember : (FileOp.member found.path found.name).result cwd fs = (.ok m, fs))
    (hencode : m.encode = .ok block) : Packs cwd fs [found] [m] [block] where
  stored := by rw [List.map_singleton, hmember]; rfl
  encoded := by rw [List.map_singleton, hencode]; rfl

/-- What was found has become a member. -/
theorem exists_member (h : Packs cwd fs founds members blocks) {found : Found}
    (hfound : found ∈ founds) :
    ∃ m ∈ members, (FileOp.member found.path found.name).result cwd fs = (.ok m, fs) := by
  have hmem := List.mem_map_of_mem (f := fun found : Found =>
    (FileOp.member found.path found.name).result cwd fs) hfound
  rw [h.stored] at hmem
  obtain ⟨m, hm, heq⟩ := List.mem_map.1 hmem
  exact ⟨m, hm, heq.symm⟩

/-- Nothing but what was found has become a member. -/
theorem exists_found (h : Packs cwd fs founds members blocks) {m : Tar.Member} (hm : m ∈ members) :
    ∃ found ∈ founds, (FileOp.member found.path found.name).result cwd fs = (.ok m, fs) := by
  have hmem := List.mem_map_of_mem
    (f := fun m : Tar.Member => (⟨.ok m, fs⟩ : Except IoError Tar.Member × FileSystem)) hm
  rw [← h.stored] at hmem
  exact List.mem_map.1 hmem

/-- Every member has become one of the blocks. -/
theorem exists_block (h : Packs cwd fs founds members blocks) {m : Tar.Member} (hm : m ∈ members) :
    ∃ block ∈ blocks, m.encode = .ok block := by
  have hmem := List.mem_map_of_mem (f := Tar.Member.encode) hm
  rw [h.encoded] at hmem
  obtain ⟨block, hblock, hencode⟩ := List.mem_map.1 hmem
  exact ⟨block, hblock, hencode.symm⟩

/-- What an archive that is not too long holds fits. -/
theorem fits (h : Packs cwd fs founds members blocks)
    (hlength : blocks.flatten.length < 256 ^ 11) : ∀ m ∈ members, m.Fits := by
  intro m hm
  obtain ⟨block, hblock, hencode⟩ := h.exists_block hm
  refine Tar.Member.fits_of_encode hencode ?_
  have := (List.sublist_flatten_of_mem hblock).length_le
  omega

end Packs

theorem foundBlocks_eq_ok (h : (spec.foundBlocks founds).run cwd s = (.ok blocks, s')) :
    s'.files = s.files ∧ s'.turns = s.turns ∧
      ∃ members, Packs cwd s.files founds members blocks := by
  induction founds generalizing s blocks with
  | nil =>
      cases h
      exact ⟨rfl, rfl, [], .nil _ _⟩
  | cons found rest ih =>
      obtain ⟨block, s₁, hblock, h⟩ := Task.run_bind_eq_ok_iff.1 h
      obtain ⟨hresult, hturns⟩ := run_writing_eq_ok hblock
      obtain ⟨hfiles, m, hmember, hencode⟩ := FileOp.memberBlocks_eq_ok hresult
      obtain ⟨_, s₂, hlog, hrest⟩ := Task.run_bind_eq_ok_iff.1 h
      cases hlog
      obtain ⟨more, s₃, hmore, hend⟩ := Task.run_bind_eq_ok_iff.1 hrest
      cases hend
      obtain ⟨hfiles', hturns', members, hpacks⟩ := ih hmore
      rw [hfiles] at hfiles' hpacks
      exact ⟨hfiles', hturns'.trans hturns, _, (Packs.singleton hmember hencode).append hpacks⟩

/-- What a walk through a tree finds, without the paths in `skip`. -/
def Walked (spec : ArchiveSpec) (cwd : Location) (fs : FileSystem) (skip : List Path) (tree : Path)
    (founds : List Found) : Prop :=
  ∃ base all, (FileOp.absolute (spec.root.join tree)).result cwd fs = (.ok base, fs) ∧
    Tree.walk tree base fs cwd = .ok all ∧
    founds = all.filter fun f => !skip.any f.path.sameComponents

theorem treeFound_eq_ok {skip : List Path} {tree : Path}
    (h : (spec.treeFound skip tree).run cwd s = (.ok founds, s')) :
    s'.files = s.files ∧ s'.turns = s.turns ∧ spec.Walked cwd s.files skip tree founds := by
  unfold treeFound at h
  obtain ⟨base, s₁, hbase, h⟩ := Task.run_bind_eq_ok_iff.1 h
  obtain ⟨all, s₂, hwalk, h⟩ := Task.run_bind_eq_ok_iff.1 h
  obtain ⟨hresult, hturns⟩ := run_writing_eq_ok hbase
  obtain ⟨hfiles, _⟩ := FileOp.absolute_eq_ok hresult
  rw [hfiles] at hresult
  rw [Task.run_onFiles, FileOp.result_mapError, FileOp.result_look, hfiles] at hwalk
  cases hfound : Tree.walk tree base s.files cwd with
  | error e =>
      rw [hfound] at hwalk
      cases hwalk
  | ok found =>
      rw [hfound] at hwalk
      cases hwalk
      cases h
      exact ⟨rfl, hturns, base, _, hresult, hfound, rfl⟩

theorem treeBlocks_eq_ok {skip trees : List Path}
    (h : (spec.treeBlocks skip trees).run cwd s = (.ok blocks, s')) :
    s'.files = s.files ∧ s'.turns = s.turns ∧
      ∃ walks : List (Path × List Found), walks.map Prod.fst = trees ∧
        (∀ w ∈ walks, spec.Walked cwd s.files skip w.1 w.2) ∧
        ∃ members, Packs cwd s.files (walks.flatMap Prod.snd) members blocks := by
  induction trees generalizing s blocks with
  | nil =>
      cases h
      exact ⟨rfl, rfl, [], rfl, by simp, [], .nil _ _⟩
  | cons tree rest ih =>
      unfold treeBlocks at h
      obtain ⟨founds, s₁, hfounds, h⟩ := Task.run_bind_eq_ok_iff.1 h
      obtain ⟨own, s₂, hown, h⟩ := Task.run_bind_eq_ok_iff.1 h
      obtain ⟨more, s₃, hmore, h⟩ := Task.run_bind_eq_ok_iff.1 h
      cases h
      obtain ⟨hfiles₁, hturns₁, hwalked⟩ := treeFound_eq_ok hfounds
      obtain ⟨hfiles₂, hturns₂, members, hpacks⟩ := foundBlocks_eq_ok hown
      obtain ⟨hfiles₃, hturns₃, walks, htrees, hwalks, members', hpacks'⟩ := ih hmore
      rw [hfiles₂, hfiles₁] at hfiles₃ hwalks hpacks'
      rw [hfiles₁] at hpacks
      refine ⟨hfiles₃, by rw [hturns₃, hturns₂, hturns₁], (tree, founds) :: walks,
        by rw [List.map_cons, htrees], ?_, _, hpacks.append hpacks'⟩
      intro w hw
      rcases List.mem_cons.1 hw with rfl | hw
      · exact hwalked
      · exact hwalks w hw

/-- **A finished archive.**  Directories have been made and a staging file has been filled beside what was
there, from the walks through all trees but for the paths of the archive and of the staging file; then
it was put in place. -/
structure Packed (spec : ArchiveSpec) (cwd : Location) (before made now after : FileSystem)
    (staged : Staged) (parent : Location) (name : String) (output own : Path)
    (walks : List (Path × List Found)) (program : Tar.Member) (block : Bytes)
    (members : List Tar.Member) (blocks : List Bytes) : Prop where
  furnished : Furnished before made
  inputs : spec.missingInput? before cwd = none
  ground : made = Staged.ground spec.output cwd before
  created : ∃ fresh, (Staged.create spec.output).result cwd before = (.ok staged, fresh) ∧
    now.nodes = fresh.nodes
  holds : staged.Holds made now cwd parent name Gzip.header stagingMode
  candidate : ∃ directory k, staged.path = Path.push directory (stagingName k)
  outputPath : (FileOp.absolute spec.output).result cwd now = (.ok output, now)
  ownPath : (FileOp.absolute staged.path).result cwd now = (.ok own, now)
  trees : walks.map Prod.fst = spec.trees
  walked : ∀ w ∈ walks, spec.Walked cwd now [output, own] w.1 w.2
  programMember : (FileOp.member spec.executable ⟨Layout.toolchainName⟩).result cwd now =
    (.ok program, now)
  programName : program.name = ⟨Layout.toolchainName⟩
  programBlock : program.encode = .ok block
  packs : Packs cwd now (walks.flatMap Prod.snd) members blocks
  placed : ∃ up last, Placed made after cwd spec.output up last
    (Gzip.wrap ((block :: blocks).flatten ++ Tar.trailer)) stagingMode
  readable : after.read cwd spec.output =
    .ok (Gzip.wrap ((block :: blocks).flatten ++ Tar.trailer))

theorem fill_eq_ok {report : ArchiveReport} {before made : FileSystem} {staged : Staged}
    {parent : Location} {name : String} (hinputs : spec.missingInput? before cwd = none)
    (hground : made = Staged.ground spec.output cwd before)
    (hcreated : (Staged.create spec.output).result cwd before = (.ok staged, s.files))
    (hholds : staged.Holds made s.files cwd parent name [] stagingMode)
    (h : (spec.fill staged).run cwd s = (.ok report, s')) :
    s'.turns = s.turns ∧ ∃ now output own walks program block members blocks,
      spec.Packed cwd before made now s'.files staged parent name output own walks program block
        members blocks ∧ report.entries = blocks.length + 1 ∧
      report.bytes = (Gzip.wrap ((block :: blocks).flatten ++ Tar.trailer)).length := by
  unfold fill at h
  obtain ⟨_, s₁, happend, h⟩ := Task.run_bind_eq_ok_iff.1 h
  obtain ⟨block, s₂, hprogram, h⟩ := Task.run_bind_eq_ok_iff.1 h
  obtain ⟨output, s₃, houtput, h⟩ := Task.run_bind_eq_ok_iff.1 h
  obtain ⟨own, s₄, hown, h⟩ := Task.run_bind_eq_ok_iff.1 h
  obtain ⟨blocks, s₅, hblocks, h⟩ := Task.run_bind_eq_ok_iff.1 h
  obtain ⟨_, s₆, hbody, h⟩ := Task.run_bind_eq_ok_iff.1 h
  obtain ⟨_, s₇, hpersist, h⟩ := Task.run_bind_eq_ok_iff.1 h
  obtain ⟨entry, s₈, hstat, h⟩ := Task.run_bind_eq_ok_iff.1 h
  obtain ⟨content, s₉, hread, h⟩ := Task.run_bind_eq_ok_iff.1 h
  obtain ⟨_, s₁₀, hlog, h⟩ := Task.run_bind_eq_ok_iff.1 h
  cases hlog
  cases h
  -- The header is written; nothing changes until the body is.
  obtain ⟨hresult₁, hturns₁⟩ := run_writing_eq_ok happend
  obtain ⟨now, hnow, hholds'⟩ := hholds.append Gzip.header
  obtain rfl : now = s₁.files := congrArg Prod.snd (hnow.symm.trans hresult₁)
  obtain ⟨hresult₂, hturns₂⟩ := run_writing_eq_ok hprogram
  obtain ⟨hfiles₂, m, hmember, hencode⟩ := FileOp.memberBlocks_eq_ok hresult₂
  obtain ⟨hresult₃, hturns₃⟩ := run_writing_eq_ok houtput
  obtain ⟨hfiles₃, _⟩ := FileOp.absolute_eq_ok hresult₃
  obtain ⟨hresult₄, hturns₄⟩ := run_writing_eq_ok hown
  obtain ⟨hfiles₄, _⟩ := FileOp.absolute_eq_ok hresult₄
  obtain ⟨hfiles₅, hturns₅, walks, htrees, hwalks, members, hpacks⟩ := treeBlocks_eq_ok hblocks
  have hstays : s₅.files = s₁.files := by rw [hfiles₅, hfiles₄, hfiles₃, hfiles₂]
  rw [hfiles₃] at hresult₃
  rw [hfiles₄] at hresult₄
  rw [hfiles₄] at hwalks hpacks
  rw [hfiles₃] at hresult₄ hwalks hpacks
  rw [hfiles₂] at hresult₃ hresult₄ hwalks hpacks
  -- The body is written and the staging file is put in place.
  obtain ⟨hresult₆, hturns₆⟩ := run_writing_eq_ok hbody
  rw [hstays] at hresult₆
  obtain ⟨filled, hfilled, hholds''⟩ :=
    hholds'.append (Gzip.body ((block :: blocks).flatten ++ Tar.trailer))
  obtain rfl : filled = s₆.files := congrArg Prod.snd (hfilled.symm.trans hresult₆)
  obtain ⟨hresult₇, hturns₇⟩ := run_writing_eq_ok hpersist
  obtain ⟨up, last, hplaced⟩ := hholds''.persist_eq_ok hresult₇
  obtain ⟨hresult₈, hfiles₈, hturns₈⟩ := run_writing_of_looks (FileOp.looks_stat _) hstat
  obtain ⟨hresult₉, hfiles₉, hturns₉⟩ := run_writing_of_looks (FileOp.looks_read _) hread
  obtain ⟨_, hcontent, _⟩ := FileOp.result_read_eq_ok_iff.1 hresult₉
  rw [hfiles₈] at hcontent
  have hwhole := hplaced.content_of_read hcontent
  obtain ⟨_, hentry, _⟩ := FileOp.result_stat_eq_ok_iff.1 hresult₈
  have hsize := hplaced.size_of_read (by simp [Gzip.header]) hentry hcontent
  refine ⟨by rw [hturns₉, hturns₈, hturns₇, hturns₆, hturns₅, hturns₄, hturns₃, hturns₂, hturns₁],
    s₁.files, output, own, walks, m, block, members, blocks, ?_, rfl, hsize⟩
  have hafter : s₉.files = s₇.files := hfiles₉.trans hfiles₈
  exact {
    furnished := hground ▸ (Staged.furnishedOn_ground spec.output cwd before).toFurnished
    inputs := hinputs
    ground := hground
    created := ⟨s.files, hcreated, congrArg (fun r => r.2.nodes) hnow.symm⟩
    holds := hholds'
    candidate := by
      obtain ⟨_, _, base, k, _, hpath⟩ := Staged.create_path hcreated
      exact ⟨base, k, hpath⟩
    outputPath := hresult₃
    ownPath := hresult₄
    trees := htrees
    walked := hwalks
    programMember := hmember
    programName := (FileOp.member_eq_ok hmember).1
    programBlock := hencode
    packs := hpacks
    placed := ⟨up, last, hafter ▸ hplaced⟩
    readable := by
      show s₉.files.read cwd spec.output = _
      rw [hafter, hcontent, hwhole]
      rfl }

/-- **Packing that succeeds** has made an archive, issued no command and counted what it has written. -/
theorem make_eq_ok_report {report : ArchiveReport} (h : spec.make.run cwd s = (.ok report, s')) :
    s'.turns = s.turns ∧ ∃ made now staged parent name output own walks program block members blocks,
      spec.Packed cwd s.files made now s'.files staged parent name output own walks program block
        members blocks ∧ report.entries = blocks.length + 1 ∧
      report.bytes = (Gzip.wrap ((block :: blocks).flatten ++ Tar.trailer)).length := by
  unfold make at h
  obtain ⟨files, s₁, hfiles, h⟩ := Task.run_bind_eq_ok_iff.1 h
  cases hfiles
  obtain ⟨here, s₂, hhere, h⟩ := Task.run_bind_eq_ok_iff.1 h
  cases hhere
  cases hinputs : spec.missingInput? s.files cwd with
  | some path =>
      rw [hinputs] at h
      cases h
  | none =>
      rw [hinputs] at h
      obtain ⟨staged, s₃, hcreate, h⟩ := Task.run_bind_eq_ok_iff.1 h
      obtain ⟨hresult, hturns⟩ := run_writing_eq_ok hcreate
      obtain ⟨made, parent, name, hmade, hholds⟩ := Staged.create_eq_ok hresult
      have hground : made = Staged.ground spec.output cwd s.files := by
        rw [Staged.ground, hmade]
      obtain ⟨hturns', now, output, own, walks, program, block, members, blocks, hpacked⟩ :=
        fill_eq_ok hinputs hground hresult hholds (Task.run_of_orElseUndo h)
      exact ⟨hturns'.trans hturns, made, now, staged, parent, name, output, own, walks, program,
        block, members, blocks, hpacked⟩

theorem make_eq_ok {report : ArchiveReport} (h : spec.make.run cwd s = (.ok report, s')) :
    s'.turns = s.turns ∧ ∃ made now staged parent name output own walks program block members blocks,
      spec.Packed cwd s.files made now s'.files staged parent name output own walks program block
        members blocks := by
  obtain ⟨hturns, made, now, staged, parent, name, output, own, walks, program, block, members,
    blocks, hpacked, _⟩ := make_eq_ok_report h
  exact ⟨hturns, made, now, staged, parent, name, output, own, walks, program, block, members,
    blocks, hpacked⟩

end ArchiveSpec

end Bootstrap
