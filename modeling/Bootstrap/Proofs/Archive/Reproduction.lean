import Bootstrap.Proofs.Archive.Inventory

/-!
# The same inputs make the same archive

What goes onto a tape is known once the binary and the trees are: names on the way down from
the top of a tree, contents, and whether an owner may execute a file.  Where all this is, when
it was written and in which order directories list it leaves no trace.  An archive outside its
trees leaves none either, unless its missing directories are made in one of them, so the trees
are compared as they stand when these are made.

* `ArchiveSpec.SameInputs` — two binaries and two lists of trees that are packed alike;
* `ArchiveSpec.Packed.members_eq` — they have the same members;
* `ArchiveSpec.make_reproduces` — **the same inputs make the same tape**;
* `ArchiveSpec.detour_not_reproduced` — an archive outside its trees that adds to one.
-/

namespace Bootstrap

open FileSystem

/-- Two entries are packed alike: files with one content, which both owners may execute or neither, or
directories. -/
inductive Entry.PackedAlike : Entry → Entry → Prop
  | files {content : Bytes} {mode mode' : Nat}
      (execute : (Entry.file content mode).isExecutable = (Entry.file content mode').isExecutable) :
      PackedAlike (.file content mode) (.file content mode')
  | directories {mode mode' : Nat} : PackedAlike (.directory mode) (.directory mode')

/-- Entries that are packed alike become the same member. -/
theorem FileOp.member_eq_of_alike {cwd cwd' : Location} {fs fs' : FileSystem} {p p' name : Path}
    {m m' : Tar.Member} {entry entry' : Entry}
    (h : (member p name).result cwd fs = (.ok m, fs))
    (h' : (member p' name).result cwd' fs' = (.ok m', fs'))
    (hstat : fs.stat cwd p = .ok entry) (hstat' : fs'.stat cwd' p' = .ok entry')
    (halike : entry.PackedAlike entry') : m = m' := by
  obtain ⟨_, hfound, hm⟩ := member_cases h
  obtain ⟨_, hfound', hm'⟩ := member_cases h'
  obtain rfl := Except.ok.inj (hstat.symm.trans hfound)
  obtain rfl := Except.ok.inj (hstat'.symm.trans hfound')
  cases halike with
  | files execute =>
      obtain ⟨_, _, heq, rfl⟩ := hm.resolve_right (by simp)
      obtain ⟨_, _, heq', rfl⟩ := hm'.resolve_right (by simp)
      cases heq
      cases heq'
      rw [execute]
  | directories =>
      obtain ⟨_, _, rfl⟩ := hm.resolve_left (by simp)
      obtain ⟨_, _, rfl⟩ := hm'.resolve_left (by simp)
      rfl

/-- Lists that one list decides on are equal. -/
theorem eq_of_forall₂ {α β : Type} {R S : α → β → Prop} {xs : List α} {ys zs : List β}
    (h : List.Forall₂ R xs ys) (h' : List.Forall₂ S xs zs)
    (heq : ∀ x ∈ xs, ∀ y z, R x y → S x z → y = z) : ys = zs := by
  induction h generalizing zs with
  | nil =>
      cases h'
      rfl
  | @cons x y xs ys hxy _ ih =>
      obtain ⟨z, rest, hxz, hrest, rfl⟩ := List.forall₂_cons_left_iff.1 h'
      rw [heq x List.mem_cons_self y z hxy hxz,
        ih hrest fun x hx => heq x (List.mem_cons_of_mem _ hx)]

namespace ArchiveSpec

variable {spec spec' : ArchiveSpec} {cwd cwd' top top' up up' parent parent' : Location}
variable {tree output output' own own' : Path}
variable {before made now after before' made' now' after' : FileSystem} {staged staged' : Staged}
variable {name last name' last' : String} {walks walks' : List (Path × List Found)}
variable {founds founds' : List Found} {program program' : Tar.Member} {block block' : Bytes}
variable {members members' : List Tar.Member} {blocks blocks' : List Bytes}

/-- The archive lies in no tree, and has the path of none. -/
def Outside (spec : ArchiveSpec) (cwd : Location) (fs : FileSystem) : Prop :=
  ∀ tree ∈ spec.trees,
    (∀ top up last, fs.reach cwd (spec.root.join tree) = .ok top →
      fs.Names cwd spec.output up last → ¬ top <+: up) ∧
    (spec.treePath cwd tree).sameComponents (spec.outputPath cwd) = false

theorem Outside.clear (h : spec.Outside cwd made) : spec.Clear cwd made :=
  fun tree htree top up last htop hnamed hin => ((h tree htree).1 top up last htop hnamed hin).elim

/-- **Two trees are packed alike**: there is something at the same ways down, and what the paths there
lead to is packed alike or is missing. -/
def SameTree (spec spec' : ArchiveSpec) (cwd cwd' : Location) (made made' : FileSystem) (tree : Path) :
    Prop :=
  ∃ top top', made.reach cwd (spec.root.join tree) = .ok top ∧
    made'.reach cwd' (spec'.root.join tree) = .ok top' ∧
    ∀ names, (made.entryAt? (top ++ names) ≠ none ↔ made'.entryAt? (top' ++ names) ≠ none) ∧
      (made.entryAt? (top ++ names) ≠ none → Option.Rel Entry.PackedAlike
        (made.stat cwd (Tree.below (spec.treePath cwd tree) names)).toOption
        (made'.stat cwd' (Tree.below (spec'.treePath cwd' tree) names)).toOption)

/-- **Two archives have the same inputs.** -/
structure SameInputs (spec spec' : ArchiveSpec) (cwd cwd' : Location) (before before' : FileSystem) :
    Prop where
  trees : spec.trees = spec'.trees
  program : ∃ entry entry', before.stat cwd spec.executable = .ok entry ∧
    before'.stat cwd' spec'.executable = .ok entry' ∧ entry.PackedAlike entry'
  each : ∀ tree ∈ spec.trees, spec.SameTree spec' cwd cwd' (Staged.ground spec.output cwd before)
    (Staged.ground spec'.output cwd' before') tree

/-- What paths lead to beside two staging files is packed alike if it was before.  A path that led
nowhere before leads to a staging file, and these hold the same. -/
theorem alike_beside {p p' : Path} {entry entry' : Entry}
    (h : staged.Holds made now cwd parent name Gzip.header stagingMode)
    (h' : staged'.Holds made' now' cwd' parent' name' Gzip.header stagingMode)
    (hrel : Option.Rel Entry.PackedAlike (made.stat cwd p).toOption (made'.stat cwd' p').toOption)
    (hstat : now.stat cwd p = .ok entry) (hstat' : now'.stat cwd' p' = .ok entry') :
    entry.PackedAlike entry' := by
  cases hmade : made.stat cwd p with
  | ok found =>
      cases hmade' : made'.stat cwd' p' with
      | ok found' =>
          rw [hmade, hmade'] at hrel
          cases Except.ok.inj ((h.kept.stat hmade).symm.trans hstat)
          cases Except.ok.inj ((h'.kept.stat hmade').symm.trans hstat')
          cases hrel
          assumption
      | error _ =>
          rw [hmade, hmade'] at hrel
          cases hrel
  | error _ =>
      cases hmade' : made'.stat cwd' p' with
      | ok _ =>
          rw [hmade, hmade'] at hrel
          cases hrel
      | error _ =>
          obtain ⟨_, rfl⟩ := (h.stat_before hstat).resolve_left (by simp [hmade])
          obtain ⟨_, rfl⟩ := (h'.stat_before hstat').resolve_left (by simp [hmade'])
          exact .files rfl

namespace Packed

/-- Nothing of a tree is left out of an archive outside. -/
theorem founds_of_outside
    (h : spec.Packed cwd before made now after staged parent name output own walks program block
      members blocks) (hsound : before.Sound) (houtside : spec.Outside cwd made)
    (htree : tree ∈ spec.trees) (htop : made.reach cwd (spec.root.join tree) = .ok top)
    (hwalked : spec.Walked cwd now [output, own] tree founds) :
    founds.map (fun f => (f.path, f.name)) = ([] :: (Tree.listing made top).map Prod.fst).map
      fun names => (Tree.below (spec.treePath cwd tree) names, Tree.nameIn tree names) := by
  obtain ⟨top', htop', hplace⟩ := h.exists_top htree
  obtain rfl := Except.ok.inj (htop.symm.trans htop')
  obtain ⟨up, last, hplaced⟩ := h.placed
  obtain ⟨⟨links, htrail⟩, hfounds⟩ := h.trail_walked_top hsound htop hplace hwalked
  have hways := Tree.depthFirst_listing (h.sound_made hsound) top
  rw [hfounds, h.filter_ways hsound houtside.clear htree htop hplace htrail hplaced.named
    hplaced.plain hways]
  congr 1
  rw [List.filter_eq_self]
  intro names _
  obtain ⟨hout, hsame⟩ := houtside tree htree
  have homits : ¬ spec.Omits cwd tree top (up ++ [last]) names := by
    rintro (hplaced' | ⟨_, hsame'⟩)
    · rcases List.eq_nil_or_concat names with rfl | ⟨front, final, rfl⟩
      · rw [List.append_nil] at hplaced'
        exact hplaced.plain (hplaced' ▸ hplace)
      · rw [List.concat_eq_append, ← List.append_assoc] at hplaced'
        obtain ⟨hup, _⟩ := List.append_inj' hplaced' rfl
        exact hout top up last htop hplaced.named (hup ▸ List.prefix_append _ _)
    · rw [hsame] at hsame'
      cases hsame'
  simpa using homits

/-- **The same inputs have the same members.** -/
theorem members_eq
    (h : spec.Packed cwd before made now after staged parent name output own walks program block
      members blocks)
    (h' : spec'.Packed cwd' before' made' now' after' staged' parent' name' output' own' walks'
      program' block' members' blocks')
    (hsound : before.Sound) (hsound' : before'.Sound)
    (houtside : spec.Outside cwd made) (houtside' : spec'.Outside cwd' made')
    (hsame : spec.SameInputs spec' cwd cwd' before before') : members = members' := by
  obtain ⟨parts, rfl, hparts⟩ := h.exists_parts
  obtain ⟨parts', rfl, hparts'⟩ := h'.exists_parts
  rw [← hsame.trees] at hparts'
  refine congrArg _ (eq_of_forall₂ hparts hparts' ?_)
  rintro tree htree part part' ⟨founds, hwalked, hpart⟩ ⟨founds', hwalked', hpart'⟩
  obtain ⟨top, top', htop, htop', heach⟩ := hsame.each tree htree
  rw [← h.ground] at htop heach
  rw [← h'.ground] at htop' heach
  have hways := Tree.depthFirst_listing (h.sound_made hsound) top
  have hways' := Tree.depthFirst_listing (h'.sound_made hsound') top'
  rw [h.founds_of_outside hsound houtside htree htop hwalked, List.forall₂_map_left_iff] at hpart
  rw [h'.founds_of_outside hsound' houtside' (hsame.trees ▸ htree) htop' hwalked',
    List.forall₂_map_left_iff] at hpart'
  -- Both walks come to the same ways down.
  have hsameWays : [] :: (Tree.listing made' top').map Prod.fst =
      [] :: (Tree.listing made top).map Prod.fst := by
    refine hways.unique (h.sound_made hsound) (hways'.pairwise (h'.sound_made hsound')) fun place => ?_
    rw [hways'.mem_iff (h'.sound_made hsound'), (heach place).1]
    simp
  rw [hsameWays] at hpart'
  refine eq_of_forall₂ hpart hpart' ?_
  rintro names hnames m m' ⟨hmember, _⟩ ⟨hmember', _⟩
  have hthere : made.entryAt? (top ++ names) ≠ none := by
    obtain ⟨_, rfl, rfl | hentry⟩ := (hways.mem_iff (h.sound_made hsound)).1 hnames
    · obtain ⟨other, hother, hplace⟩ := h.exists_top htree
      obtain rfl := Except.ok.inj (htop.symm.trans hother)
      obtain ⟨mode, hmode⟩ := holdsDirectory_iff.1 hplace
      simp [hmode]
    · exact hentry
  obtain ⟨entry, hstat, _⟩ := FileOp.member_cases hmember
  obtain ⟨entry', hstat', _⟩ := FileOp.member_cases hmember'
  exact FileOp.member_eq_of_alike hmember hmember' hstat hstat'
    (alike_beside h.holds h'.holds ((heach names).2 hthere) hstat hstat')

/-- The same inputs have the same binary. -/
theorem program_eq
    (h : spec.Packed cwd before made now after staged parent name output own walks program block
      members blocks)
    (h' : spec'.Packed cwd' before' made' now' after' staged' parent' name' output' own' walks'
      program' block' members' blocks')
    (hsame : spec.SameInputs spec' cwd cwd' before before') : program = program' := by
  obtain ⟨entry, entry', hstat, hstat', halike⟩ := hsame.program
  exact FileOp.member_eq_of_alike h.programMember h'.programMember
    (h.holds.kept.stat (h.furnished.kept.stat hstat))
    (h'.holds.kept.stat (h'.furnished.kept.stat hstat')) halike

end Packed

/-- **The same inputs make the same tape.** -/
theorem make_reproduces {σ σ' : Type} {s t : Session σ} {s' t' : Session σ'}
    {report report' : ArchiveReport}
    (h : spec.make.run cwd s = (.ok report, t)) (h' : spec'.make.run cwd' s' = (.ok report', t'))
    (hsound : s.files.Sound) (hsound' : s'.files.Sound)
    (houtside : spec.Outside cwd (Staged.ground spec.output cwd s.files))
    (houtside' : spec'.Outside cwd' (Staged.ground spec'.output cwd' s'.files))
    (hsame : spec.SameInputs spec' cwd cwd' s.files s'.files) :
    report.entries = report'.entries ∧ ∃ packed packed' tape,
      t.files.read cwd spec.output = .ok packed ∧ Gzip.unwrap? packed = some tape ∧
      t'.files.read cwd' spec'.output = .ok packed' ∧ Gzip.unwrap? packed' = some tape := by
  obtain ⟨_, made, now, staged, parent, name, output, own, walks, program, block, members, blocks,
    hpacked, hentries, _⟩ := make_eq_ok_report h
  obtain ⟨_, made', now', staged', parent', name', output', own', walks', program', block', members',
    blocks', hpacked', hentries', _⟩ := make_eq_ok_report h'
  rw [← hpacked.ground] at houtside
  rw [← hpacked'.ground] at houtside'
  obtain rfl := hpacked.members_eq hpacked' hsound hsound' houtside houtside' hsame
  obtain rfl := hpacked.program_eq hpacked' hsame
  have hblock : block = block' :=
    Except.ok.inj (hpacked.programBlock.symm.trans hpacked'.programBlock)
  have hblocks : blocks = blocks' :=
    (List.map_inj_right fun _ _ => Except.ok.inj).1
      (hpacked.packs.encoded.symm.trans hpacked'.packs.encoded)
  subst hblock hblocks
  exact ⟨hentries.trans hentries'.symm, _, _, _, hpacked.readable, Gzip.unwrap?_wrap _,
    hpacked'.readable, Gzip.unwrap?_wrap _⟩

/-! ### Samples -/

/-- What stands in a tree of two entries stands at one of two ways down. -/
theorem entryAt?_ne_none_iff (fs : FileSystem) (top : Location) (file : String) (hne : top ≠ [])
    (htop : fs.entryAt? top ≠ none) (hfile : fs.entryAt? (top ++ [file]) ≠ none)
    (hnodes : ∀ x ∈ fs.nodes, top <+: x.1 → x.1 = top ∨ x.1 = top ++ [file]) (names : Location) :
    fs.entryAt? (top ++ names) ≠ none ↔ names = [] ∨ names = [file] := by
  constructor
  · intro hentry
    obtain ⟨entry, hentry⟩ := Option.ne_none_iff_exists'.1 hentry
    obtain ⟨node, hnode, _⟩ := nodeAt?_of_entryAt? hentry
    rw [nodeAt?, if_neg (by simp [hne])] at hnode
    rcases hnodes _ (mem_of_lookup hnode) (List.prefix_append _ _) with heq | heq
    · exact .inl (List.self_eq_append_right.1 heq.symm)
    · exact .inr (List.append_cancel_left heq)
  · rintro (rfl | rfl)
    · rwa [List.append_nil]
    · exact hfile

/-- The sample in another place: later, listed in another order and with other bits for others. -/
def movedTree : FileSystem where
  nodes := [(["r", "t", "b"], .file 7), (["x"], .file 5), (["r", "t"], .directory 0o700 3),
    (["r"], .directory 0o755 2)]
  files := [(5, ⟨[], 0o711, 4⟩), (7, ⟨[1], 0o600, 1⟩)]
  now := 9

def movedSpec : ArchiveSpec := ⟨⟨"/x"⟩, ⟨"/r"⟩, [⟨"./t"⟩], ⟨"/v"⟩⟩

/-- Packing the moved sample.  Only the kernel evaluates it. -/
@[irreducible] def movedPacking : Except PackageError ArchiveReport × Session Unit :=
  movedSpec.make.run [] (Session.start movedTree ())

theorem sampleInputs_moved :
    (sampleSpec ⟨"/u"⟩).SameInputs movedSpec [] [] (sampleTree "b") movedTree where
  trees := rfl
  program := ⟨.file [] 0o755, .file [] 0o711, by decide +kernel, by decide +kernel, .files rfl⟩
  each := by
    intro tree htree
    obtain rfl := List.mem_singleton.1 htree
    refine ⟨["t"], ["r", "t"], eq_ok_of_toOption (by decide +kernel),
      eq_ok_of_toOption (by decide +kernel), fun names => ?_⟩
    have hhere := entryAt?_ne_none_iff (sampleGround "b" ⟨"/u"⟩) ["t"] "b" (by simp)
      (by decide +kernel) (by decide +kernel) (by decide +kernel) names
    have hthere := entryAt?_ne_none_iff (Staged.ground ⟨"/v"⟩ [] movedTree) ["r", "t"] "b" (by simp)
      (by decide +kernel) (by decide +kernel) (by decide +kernel) names
    have hrel : ∀ {x y : Option Entry} (entry entry' : Entry), x = some entry → y = some entry' →
        entry.PackedAlike entry' → Option.Rel Entry.PackedAlike x y := by
      rintro _ _ entry entry' rfl rfl halike
      exact .some halike
    refine ⟨hhere.trans hthere.symm, fun hentry => ?_⟩
    rcases hhere.1 hentry with rfl | rfl
    · exact hrel (.directory 0o755) (.directory 0o700) (by decide +kernel) (by decide +kernel)
        .directories
    · exact hrel (.file [1] 0o644) (.file [1] 0o600) (by decide +kernel) (by decide +kernel)
        (.files rfl)

/-- An archive in the root is outside the sample tree. -/
theorem Samples.outside {archive : Path} {last : String} (h : Samples "b" archive [] last)
    (hsame : ((sampleSpec archive).treePath [] ⟨"./t"⟩).sameComponents
      ((sampleSpec archive).outputPath []) = false) :
    (sampleSpec archive).Outside [] (sampleGround "b" archive) := by
  intro tree htree
  obtain rfl := List.mem_singleton.1 htree
  refine ⟨fun top up last' htop hnamed => ?_, hsame⟩
  obtain ⟨rfl, rfl⟩ := h.named.unique hnamed
  obtain rfl := Except.ok.inj (h.reach.symm.trans htop)
  simp

/-- The moved sample makes the same tape. -/
theorem movedPacking_reproduces :
    ∃ packed packed' tape,
      (samplePacking "b" ⟨"/u"⟩).2.files.read [] ⟨"/u"⟩ = .ok packed ∧
      Gzip.unwrap? packed = some tape ∧
      movedPacking.2.files.read [] ⟨"/v"⟩ = .ok packed' ∧ Gzip.unwrap? packed' = some tape := by
  have hsample : Samples "b" ⟨"/u"⟩ [] "u" := by decide +kernel
  obtain ⟨report, _, hrun⟩ := hsample.run
  have hmoved : movedPacking.1.toOption.isSome = true := by decide +kernel
  obtain ⟨report', hreport'⟩ := Option.isSome_iff_exists.1 hmoved
  have hrun' : movedSpec.make.run [] (Session.start movedTree ()) = (.ok report', movedPacking.2) := by
    rw [← eq_mk_of_fst (eq_ok_of_toOption hreport')]
    unfold movedPacking
    rfl
  have houtside : movedSpec.Outside [] (Staged.ground ⟨"/v"⟩ [] movedTree) := by
    have hreach : (Staged.ground ⟨"/v"⟩ [] movedTree).reach [] ((⟨"/r"⟩ : Path).join ⟨"./t"⟩) =
        .ok ["r", "t"] := eq_ok_of_toOption (by decide +kernel)
    have hnamed : (Staged.ground ⟨"/v"⟩ [] movedTree).Names [] ⟨"/v"⟩ [] "v" :=
      eq_ok_of_toOption (by decide +kernel)
    intro tree htree
    obtain rfl := List.mem_singleton.1 htree
    refine ⟨fun top up last htop hnames => ?_, by decide +kernel⟩
    obtain ⟨rfl, rfl⟩ := hnamed.unique hnames
    obtain rfl := Except.ok.inj (hreach.symm.trans htop)
    simp
  obtain ⟨_, packed, packed', tape, hread, hunwrap, hread', hunwrap'⟩ :=
    make_reproduces hrun hrun' hsample.sound
      (sound_of_nodes (by decide +kernel) (by decide +kernel) (by decide +kernel))
      (hsample.outside (by decide +kernel)) houtside sampleInputs_moved
  exact ⟨packed, packed', tape, hread, hunwrap, hread', hunwrap'⟩

/-- **An archive outside its trees can add to one**: the directories that a detour needs are made.  So two
archives of one and the same tree differ. -/
theorem detour_not_reproduced :
    (sampleSpec ⟨"/u"⟩).Outside [] (sampleGround "b" ⟨"/u"⟩) ∧
      (sampleSpec ⟨"/t/n/../../u"⟩).Outside [] (sampleGround "b" ⟨"/t/n/../../u"⟩) ∧
      ∃ report report',
        (sampleSpec ⟨"/u"⟩).make.run [] (Session.start (sampleTree "b") ()) =
          (.ok report, (samplePacking "b" ⟨"/u"⟩).2) ∧
        (sampleSpec ⟨"/t/n/../../u"⟩).make.run [] (Session.start (sampleTree "b") ()) =
          (.ok report', (samplePacking "b" ⟨"/t/n/../../u"⟩).2) ∧
        report.entries = 3 ∧ report'.entries = 4 := by
  have hsample : Samples "b" ⟨"/u"⟩ [] "u" := by decide +kernel
  have hsample' : Samples "b" ⟨"/t/n/../../u"⟩ [] "u" := by decide +kernel
  obtain ⟨report, _, hrun⟩ := hsample.run
  obtain ⟨report', _, hrun'⟩ := hsample'.run
  have hentries : (samplePacking "b" ⟨"/u"⟩).1.toOption.map (·.entries) = some 3 := by decide +kernel
  have hentries' : (samplePacking "b" ⟨"/t/n/../../u"⟩).1.toOption.map (·.entries) = some 4 := by
    decide +kernel
  refine ⟨hsample.outside (by decide +kernel), hsample'.outside (by decide +kernel), report, report',
    hrun, hrun', ?_, ?_⟩
  · unfold samplePacking at hentries
    rw [hrun] at hentries
    exact Option.some.inj hentries
  · unfold samplePacking at hentries'
    rw [hrun'] at hentries'
    exact Option.some.inj hentries'

end ArchiveSpec

end Bootstrap
