import Bootstrap.Proofs.Archive.Inventory

/-!
# An archive is not in itself

The archive that is replaced and the staging file that replaces it are entries like others,
and a walk can come to them.  It passes them by where it knows their paths: no entry of an
archive that is where a walk knows it stands where one of the two does.  What a link of a
tree leads to is packed without a look at where it stands, so the way past a link is open;
and an archive whose path goes up with `..` is not known at all.

* `Sound.eq_below` — a path of a walk leads to where it goes down to, but past a link;
* `ArchiveSpec.Spares` — what is packed of a tree is neither of two places;
* `ArchiveSpec.make_spares_itself` — **only links lead to what a finished archive leaves out**;
* `ArchiveSpec.dottedArchive_in_itself` — an archive that has both.
-/

namespace Bootstrap

open FileSystem

namespace FileSystem

variable {fs : FileSystem} {cwd top names place : Location} {base : Path} {links : Nat} {node : Node}

/-- **A path of a walk leads to where it goes down to**, unless a link stands there. -/
theorem Sound.eq_below (hsound : fs.Sound) (hbase : base.isAbsolute = true)
    (htop : Trail fs links [] base.solidSteps top) (hnames : ∀ name ∈ names, ProperName name)
    (hnode : fs.nodeAt? (top ++ names) = some node) (hplain : ∀ target, node ≠ .link target)
    (hreach : fs.reach cwd (Tree.below base names) = .ok place) : place = top ++ names := by
  obtain ⟨_, htrail⟩ := trail_of_reach hreach
  rw [origin, (Path.below_spec base hnames).2.trans hbase, if_pos rfl,
    Path.solidSteps_below base hnames] at htrail
  obtain ⟨_, hdown⟩ := htrail.remainder htop
  have hway : ∀ front, front <+: names → front ≠ [] →
      ∀ target, fs.nodeAt? (top ++ front) ≠ some (.link target) := by
    rintro front ⟨more, rfl⟩ _ target
    by_cases hmore : more = []
    · rw [hmore, List.append_nil] at hnode
      rw [hnode]
      exact fun heq => hplain target (Option.some.inj heq)
    · rw [← List.append_assoc] at hnode
      exact (hsound.holdsDirectory_above (Option.ne_none_iff_exists'.2 ⟨node, hnode⟩) hmore).ne_link
        target
  exact hdown.down_names hway

end FileSystem

namespace ArchiveSpec

variable {spec : ArchiveSpec} {cwd top up names parent : Location} {tree output own : Path}
variable {before made now after : FileSystem} {staged : Staged} {name last : String}
variable {walks : List (Path × List Found)} {founds : List Found} {program : Tar.Member}
variable {block : Bytes} {members : List Tar.Member} {blocks : List Bytes}

/-- **What is packed of a tree spares two places.**  Each entry is what a path of the walk leads to.  It
stands at neither place, and unless it is a link its path leads to neither. -/
def Spares (spec : ArchiveSpec) (cwd : Location) (now : FileSystem) (out staging : Location)
    (tree : Path) (part : List Tar.Listed) : Prop :=
  ∃ top, now.reach cwd (spec.root.join tree) = .ok top ∧
    ∀ l ∈ part, ∃ names place entry,
      now.reach cwd (Tree.below (spec.treePath cwd tree) names) = .ok place ∧
        now.entryAt? place = some entry ∧
        entry.listed? (Tree.storedName tree names) = some l ∧
        top ++ names ∉ [out, staging] ∧
        ((∀ target, now.nodeAt? (top ++ names) ≠ some (.link target)) → place ∉ [out, staging])

namespace Packed

/-- The binary is not the staging file: it was there before. -/
theorem program_spared
    (h : spec.Packed cwd before made now after staged parent name output own walks program block
      members blocks) :
    ∃ place entry, now.reach cwd spec.executable = .ok place ∧ now.entryAt? place = some entry ∧
      entry.listed? (Text.Utf8.encode Layout.toolchainName) = some program.listed ∧
      place ≠ parent ++ [name] := by
  obtain ⟨content, mode, hstat, hlisted⟩ := h.lists_program
  have hmade := h.furnished.kept.stat hstat
  obtain ⟨place, hreach, hentry⟩ := stat_eq_ok_iff.1 (h.holds.kept.stat hmade)
  obtain ⟨place', hreach', hentry'⟩ := stat_eq_ok_iff.1 hmade
  obtain ⟨node, hnode, _⟩ := nodeAt?_of_entryAt? hentry'
  obtain rfl : place' = place :=
    Except.ok.inj ((h.holds.kept.reach hreach' (by simp [hnode])).symm.trans hreach)
  refine ⟨place', _, hreach, hentry, hlisted, ?_⟩
  rintro rfl
  rw [h.holds.free] at hnode
  cases hnode

/-- **What is packed of a tree** is neither the archive nor its staging file. -/
theorem spares {part : List Tar.Listed}
    (h : spec.Packed cwd before made now after staged parent name output own walks program block
      members blocks) (hsound : before.Sound) (htree : tree ∈ spec.trees)
    (hlists : spec.ListsTree cwd made now (up ++ [last]) (parent ++ [name]) tree part) :
    spec.Spares cwd now (up ++ [last]) (parent ++ [name]) tree part := by
  obtain ⟨top, htop, hplace⟩ := h.exists_top htree
  obtain ⟨top', ways, htop', hways, hpart⟩ := hlists
  obtain rfl := Except.ok.inj (htop.symm.trans htop')
  obtain ⟨w, hw, rfl⟩ := List.mem_map.1 (h.trees ▸ htree)
  obtain ⟨⟨links, htrail⟩, _⟩ := h.trail_walked_top hsound htop hplace (h.walked w hw)
  have hfree : ∀ {place}, made.nodeAt? place ≠ none → place ≠ parent ++ [name] := by
    rintro place hnode rfl
    exact hnode h.holds.free
  refine ⟨top, ?_, ?_⟩
  · obtain ⟨_, _, hnode⟩ := hplace
    exact h.holds.kept.reach htop (by simp [hnode])
  intro l hl
  obtain ⟨names, hmem, entry, hmeets, hlisted⟩ := exists_of_forall₂ hpart hl
  obtain ⟨hway, homits⟩ := List.mem_filter.1 hmem
  have homits' : ¬ spec.Omits cwd w.1 top (up ++ [last]) names := by simpa using homits
  have hstands : ∃ node, made.nodeAt? (top ++ names) = some node := by
    obtain ⟨_, rfl, rfl | hentry⟩ := (hways.mem_iff (h.sound_made hsound)).1 hway
    · obtain ⟨_, _, hnode⟩ := hplace
      exact ⟨_, by rw [List.append_nil]; exact hnode⟩
    · obtain ⟨found, hfound⟩ := Option.ne_none_iff_exists'.1 hentry
      obtain ⟨node, hnode, _⟩ := nodeAt?_of_entryAt? hfound
      exact ⟨node, hnode⟩
  obtain ⟨node, hnode⟩ := hstands
  have hproper : ∀ n ∈ names, ProperName n := fun n hn =>
    (h.sound_made hsound).proper _ _ hnode n (List.mem_append_right _ hn)
  have hout : top ++ names ≠ up ++ [last] := fun heq => homits' (.inl heq)
  have hstaging : top ++ names ≠ parent ++ [name] := hfree (by simp [hnode])
  -- Seen beside the staging file, the path leads to what was packed.
  have hthere : ∃ place, now.reach cwd (Tree.below (spec.treePath cwd w.1) names) = .ok place ∧
      now.entryAt? place = some entry := by
    rcases hmeets with hstat | ⟨hreach, rfl⟩
    · exact stat_eq_ok_iff.1 (h.holds.kept.stat hstat)
    · exact ⟨_, hreach, h.holds.entryAt?_self⟩
  obtain ⟨place, hreach, hentry⟩ := hthere
  refine ⟨names, place, entry, hreach, hentry, hlisted, by simp [hout, hstaging], fun hplain => ?_⟩
  have hnode' := h.holds.kept.node _ _ hnode
  obtain rfl := (h.sound_now hsound).eq_below (isAbsolute_treePath spec cwd w.1) htrail hproper hnode'
    (fun target hlink => hplain target (by rw [hnode', hlink])) hreach
  simp [hout, hstaging]

/-- A file that a walk does not know as the archive or its staging file is packed. -/
theorem listed_of_unknown {content : Bytes} {mode : Nat}
    (h : spec.Packed cwd before made now after staged parent name output own walks program block
      members blocks) (hsound : before.Sound) (htree : tree ∈ spec.trees)
    (htop : made.reach cwd (spec.root.join tree) = .ok top)
    (hentry : now.entryAt? (top ++ names) = some (.file content mode))
    (hunknown : ([output, own].any
      (Tree.below (spec.treePath cwd tree) names).sameComponents) = false) :
    ∃ l ∈ members.map Tar.Member.listed,
      l.name = Tree.storedName tree names ∧ l.content = content := by
  obtain ⟨top', htop', hplace⟩ := h.exists_top htree
  obtain rfl := Except.ok.inj (htop.symm.trans htop')
  obtain ⟨w, hw, rfl⟩ := List.mem_map.1 (h.trees ▸ htree)
  obtain ⟨⟨links, htrail⟩, hfounds⟩ := h.trail_walked_top hsound htop hplace (h.walked w hw)
  have hway : names ∈ [] :: (Tree.listing now top).map Prod.fst :=
    ((Tree.depthFirst_listing (h.sound_now hsound) top).mem_iff (h.sound_now hsound)).2
      ⟨names, rfl, .inr (by simp [hentry])⟩
  have hfound : (Tree.below (spec.treePath cwd w.1) names, Tree.nameIn w.1 names) ∈
      (walks.flatMap Prod.snd).map fun f => (f.path, f.name) := by
    rw [List.map_flatMap]
    refine List.mem_flatMap.2 ⟨w, hw, ?_⟩
    rw [hfounds]
    exact List.mem_map_of_mem (List.mem_filter.2 ⟨hway, by rw [hunknown]; rfl⟩)
  obtain ⟨m, hm, hmember, _, hencode⟩ := exists_of_forall₂ h.packs.forall₂.flip hfound
  obtain ⟨node, hnode, hshown⟩ := nodeAt?_of_entryAt? hentry
  have hproper : ∀ n ∈ names, ProperName n := fun n hn =>
    (h.sound_now hsound).proper _ _ hnode n (List.mem_append_right _ hn)
  obtain ⟨entry, hstat, hlisted⟩ := listed_member hmember
    (Tar.Member.listedName_of_encode hencode (FileOp.member_eq_ok hmember).1 hproper
      (properName_of_tree (h.sound_made hsound) htop hplace))
  refine ⟨m.listed, List.mem_map_of_mem hm, name_of_listed? hlisted, ?_⟩
  -- The path leads to the file itself.
  have hplain : ∀ target, node ≠ .link target := by
    rintro target rfl
    rw [shown] at hshown
    cases hshown
  obtain ⟨place, hreach, hthere⟩ := stat_eq_ok_iff.1 hstat
  obtain rfl := (h.sound_now hsound).eq_below (isAbsolute_treePath spec cwd w.1) htrail hproper hnode
    hplain hreach
  rw [hentry] at hthere
  cases hthere
  exact (congrArg Tar.Listed.content (Option.some.inj hlisted)).symm

end Packed

/-- **Only links lead to what a finished archive leaves out.**  An archive that is where a walk knows it
lists no entry that stands where the archive did before, or where its staging file stood. -/
theorem make_spares_itself {σ : Type} {s s' : Session σ} {report : ArchiveReport}
    (h : spec.make.run cwd s = (.ok report, s')) (hbytes : report.bytes < 2 ^ 64)
    (hsound : s.files.Sound) (hclear : spec.Clear cwd (Staged.ground spec.output cwd s.files)) :
    ∃ program parts, spec.ReadsAs cwd s'.files (program :: parts.flatten) ∧
      ∃ now, ∃ staged : Staged, ∃ up last name,
        (Staged.ground spec.output cwd s.files).Names cwd spec.output up last ∧
        staged.Holds (Staged.ground spec.output cwd s.files) now cwd up name Gzip.header stagingMode ∧
        (∃ place entry, now.reach cwd spec.executable = .ok place ∧
          now.entryAt? place = some entry ∧
          entry.listed? (Text.Utf8.encode Layout.toolchainName) = some program ∧
          place ≠ up ++ [name]) ∧
        List.Forall₂ (spec.Spares cwd now (up ++ [last]) (up ++ [name])) spec.trees parts := by
  obtain ⟨_, made, now, staged, parent, name, output, own, walks, program, block, members, blocks,
    hpacked, _, hsize⟩ := make_eq_ok_report h
  rw [← hpacked.ground] at hclear ⊢
  obtain ⟨up, last, hplaced⟩ := hpacked.placed
  obtain ⟨rfl, _⟩ := hpacked.beside hsound hplaced.named
  obtain ⟨parts, hparts, hlists⟩ := hpacked.listsTrees hsound hclear hplaced.named hplaced.plain
  have hread := hpacked.readsAs hsize hbytes
  rw [hparts] at hread
  refine ⟨program.listed, parts, hread, now, staged, parent, last, name, hplaced.named,
    hpacked.holds, hpacked.program_spared, ?_⟩
  refine ((List.forall₂_and_left _ _).2 ⟨fun tree htree => htree, hlists⟩).imp ?_
  rintro tree part ⟨htree, hlist⟩
  exact hpacked.spares hsound htree hlist

/-- The sample archive, which is in its own tree, is not in itself. -/
theorem samplePacking_spares_itself :
    ∃ report program parts,
      (sampleSpec ⟨"/t/a"⟩).make.run [] (Session.start (sampleTree "a") ()) =
        (.ok report, (samplePacking "a" ⟨"/t/a"⟩).2) ∧
      (sampleSpec ⟨"/t/a"⟩).ReadsAs [] (samplePacking "a" ⟨"/t/a"⟩).2.files
        (program :: parts.flatten) ∧
      ∃ now name, List.Forall₂ ((sampleSpec ⟨"/t/a"⟩).Spares [] now (["t"] ++ ["a"]) (["t"] ++ [name]))
        [⟨"./t"⟩] parts := by
  have hsample : Samples "a" ⟨"/t/a"⟩ ["t"] "a" := by decide +kernel
  obtain ⟨report, hbytes, hrun⟩ := hsample.run
  obtain ⟨program, parts, hread, now, staged, up, last, name, hnamed, _, _, hparts⟩ :=
    make_spares_itself hrun hbytes hsample.sound hsample.clear
  obtain ⟨rfl, rfl⟩ := hsample.named.unique hnamed
  exact ⟨report, program, parts, hrun, hread, now, name, hparts⟩

/-- **An archive whose path goes up with `..` can be in itself**, with what was there before and with
what its staging file held. -/
theorem dottedArchive_in_itself :
    Samples "a" ⟨"/t/../t/a"⟩ ["t"] "a" ∧
      (sampleTree "a").entryAt? (["t"] ++ ["a"]) = some (.file [1] 0o644) ∧
      ∃ listed name,
        (sampleSpec ⟨"/t/../t/a"⟩).ReadsAs [] (samplePacking "a" ⟨"/t/../t/a"⟩).2.files listed ∧
        (sampleGround "a" ⟨"/t/../t/a"⟩).nodeAt? (["t"] ++ [name]) = none ∧
        (∃ l ∈ listed, l.name = Tree.storedName ⟨"./t"⟩ ["a"] ∧ l.content = [1]) ∧
        ∃ l ∈ listed, l.name = Tree.storedName ⟨"./t"⟩ [name] ∧ l.content = Gzip.header := by
  have hsample : Samples "a" ⟨"/t/../t/a"⟩ ["t"] "a" := by decide +kernel
  have hentry : (sampleGround "a" ⟨"/t/../t/a"⟩).entryAt? (["t"] ++ ["a"]) = some (.file [1] 0o644) := by
    decide +kernel
  obtain ⟨report, hbytes, hrun⟩ := hsample.run
  obtain ⟨_, made, now, staged, parent, name, output, own, walks, program, block, members, blocks,
    hpacked, _, hsize⟩ := make_eq_ok_report hrun
  have hground : made = sampleGround "a" ⟨"/t/../t/a"⟩ := hpacked.ground
  have hnamed := hsample.named
  have htop := hsample.reach
  rw [← hground] at hnamed htop hentry ⊢
  obtain ⟨rfl, front, houtput, hown⟩ := hpacked.beside hsample.sound hnamed
  -- The paths of the archive and its staging file go up, and no path of the walk does.
  have hfront : front = [.into "t", .up, .into "t"] := by
    have hsteps : ((sampleSpec ⟨"/t/../t/a"⟩).outputPath []).solidSteps =
        [.into "t", .up, .into "t"] ++ [.into "a"] := by decide +kernel
    exact (List.append_inj' (houtput.symm.trans hsteps) rfl).1
  have htree : ((sampleSpec ⟨"/t/../t/a"⟩).treePath [] ⟨"./t"⟩).solidSteps = [.into "t"] := by
    decide +kernel
  have hstored : ∀ {n : String} {content : Bytes} {mode : Nat},
      now.entryAt? (["t"] ++ [n]) = some (.file content mode) →
      ∃ l ∈ program.listed :: members.map Tar.Member.listed,
        l.name = Tree.storedName ⟨"./t"⟩ [n] ∧ l.content = content := by
    intro n content mode hfile
    obtain ⟨node, hnode, _⟩ := nodeAt?_of_entryAt? hfile
    have hproper : ∀ m ∈ [n], ProperName m := fun m hm =>
      (hpacked.sound_now hsample.sound).proper _ _ hnode m (List.mem_append_right _ hm)
    have habsolute := isAbsolute_treePath (sampleSpec ⟨"/t/../t/a"⟩) [] ⟨"./t"⟩
    have hdiffers : ∀ {p : Path} {m : String}, p.isAbsolute = true →
        p.solidSteps = front ++ [.into m] →
        (Tree.below ((sampleSpec ⟨"/t/../t/a"⟩).treePath [] ⟨"./t"⟩) [n]).sameComponents p = false := by
      intro p m hp hsteps
      rw [Bool.eq_false_iff, ne_eq, Path.sameComponents_iff
        ((Path.below_spec _ hproper).2.trans habsolute) hp, Path.solidSteps_below _ hproper, htree,
        hsteps, hfront]
      simp
    have houtput' : output.isAbsolute = true ∧ output.solidSteps = front ++ [.into "a"] := by
      rw [hpacked.output_spec.1]
      exact ⟨Path.isAbsolute_absoluteFrom_pathOf _ _, houtput⟩
    have hown' : own.isAbsolute = true := by
      rw [hpacked.own_spec.1]
      exact Path.isAbsolute_absoluteFrom_pathOf _ _
    obtain ⟨l, hl, hfound⟩ := hpacked.listed_of_unknown hsample.sound
      (List.mem_singleton.2 rfl) htop hfile
      (by simp [hdiffers houtput'.1 houtput'.2, hdiffers hown' hown])
    exact ⟨l, List.mem_cons_of_mem _ hl, hfound⟩
  have hprevious : now.entryAt? (["t"] ++ ["a"]) = some (.file [1] 0o644) := by
    rw [hpacked.holds.entryAt?_of_ne, hentry]
    intro heq
    obtain ⟨node, hnode, _⟩ := nodeAt?_of_entryAt? hentry
    rw [heq, hpacked.holds.free] at hnode
    cases hnode
  exact ⟨hsample, by decide +kernel, _, name, hpacked.readsAs hsize hbytes, hpacked.holds.free,
    hstored hprevious, hstored hpacked.holds.entryAt?_self⟩

end ArchiveSpec

end Bootstrap
