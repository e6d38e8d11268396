import Bootstrap.Proofs.Archive.Package
import Bootstrap.Proofs.Archive.TreeName

/-!
# What a reader finds in a finished archive

A reader gets the tape back that was wrapped, and the members back that the tape was made
of.  A file of a source tree is found under its name in the tree, with the content that it
had while the archive was filled, and nothing else is found under that name.

* `Staged.Holds.trail_of_placed` — the directories of the finished tree were there before
  the archive was put in place;
* `Path.trail_absolute` — a tree is walked where it stands;
* `ArchiveSpec.Packed.file_listed` — **a packed file**: what is found under its name.
-/

namespace Bootstrap

open FileSystem

variable {cwd place : Location} {fs fs' made now after : FileSystem} {name : String}
variable {names : Location}

namespace FileSystem

/-- What is below a place is what the tree holds further down. -/
theorem mem_below_iff {entry : Entry} :
    (names, entry) ∈ fs.below place ↔
      names ≠ [] ∧ ∃ node, (place ++ names, node) ∈ fs.nodes ∧ fs.shown node = some entry := by
  unfold below
  rw [List.mem_filterMap]
  constructor
  · rintro ⟨⟨other, node⟩, hmem, h⟩
    by_cases hbelow : place.isPrefixOf other ∧ place ≠ other
    · simp only [if_pos hbelow] at h
      obtain ⟨rest, rfl⟩ := List.isPrefixOf_iff_prefix.1 hbelow.1
      obtain ⟨found, hshown, heq⟩ := Option.map_eq_some_iff.1 h
      rw [List.drop_left] at heq
      cases heq
      exact ⟨fun hnil => hbelow.2 (by simp [hnil]), node, hmem, hshown⟩
    · simp only [if_neg hbelow] at h
      cases h
  · rintro ⟨hne, node, hmem, hshown⟩
    refine ⟨(place ++ names, node), hmem, ?_⟩
    have hbelow : place.isPrefixOf (place ++ names) ∧ place ≠ place ++ names := by
      refine ⟨List.isPrefixOf_iff_prefix.2 (List.prefix_append _ _), ?_⟩
      intro heq
      exact hne (List.self_eq_append_right.1 heq)
    simp only [if_pos hbelow, hshown, Option.map_some, List.drop_left]

end FileSystem

namespace Staged.Holds

variable {s : Staged} {parent up : Location} {last : String} {p : Path} {content content' : Bytes}
variable {mode mode' : Nat}

/-- The directories of the finished tree were there before a staging file was put in place. -/
theorem node_of_placed (h : Holds made now cwd s parent name content mode)
    (hplaced : Placed made after cwd p up last content' mode')
    (hdirectory : after.HoldsDirectory place) : now.nodeAt? place = after.nodeAt? place := by
  obtain ⟨bits, time, hnode⟩ := hdirectory
  have hafter := hplaced.replaced.node place
  have hne : place ≠ up ++ [last] := by
    intro heq
    rw [if_pos heq, hnode] at hafter
    cases hafter
  rw [if_neg hne] at hafter
  have hne' : place ≠ parent ++ [name] := by
    rintro rfl
    rw [h.free, hnode] at hafter
    cases hafter
  rw [h.node_of_ne hne', hafter]

/-- So are the trails to these directories. -/
theorem trail_of_placed {links : Nat} {here : Location} {steps : List PathStep}
    (h : Holds made now cwd s parent name content mode)
    (hplaced : Placed made after cwd p up last content' mode')
    (htrail : Trail after links here steps place) (hplace : after.HoldsDirectory place) :
    Trail now links here steps place := by
  have hnew := hplaced.replaced.node (up ++ [last])
  rw [if_pos rfl] at hnew
  have hsame : ∀ other, ¬ (other = up ++ [last] ∨ other = parent ++ [name]) →
      AlikeAt after now other := by
    intro other hother
    simp only [not_or] at hother
    refine alikeAt_of_eq ?_
    rw [h.node_of_ne hother.2, hplaced.replaced.node, if_neg hother.1]
  refine htrail.keep hplace _ ?_ hsame
  intro up' last' hchanged
  by_cases hplaced' : up' ++ [last'] = up ++ [last]
  · exact blunt_of_file (hplaced' ▸ hnew)
  · have hfree : up' ++ [last'] = parent ++ [name] := hchanged.resolve_left hplaced'
    refine blunt_of_absent ?_
    rw [hplaced.replaced.node, if_neg hplaced', hfree, h.free]

/-- Names that are proper at the end were proper before. -/
theorem proper_of_placed (h : Holds made now cwd s parent name content mode)
    (hname : ProperName name) (hplaced : Placed made after cwd p up last content' mode')
    (hproper : after.Proper) : now.Proper := by
  intro place node hnode
  by_cases hstaged : place = parent ++ [name]
  · obtain ⟨bits, time, hparent, _⟩ := hplaced.grown.enters h.named.enters
    intro n hn
    rw [hstaged, List.mem_append] at hn
    rcases hn with hn | hn
    · exact hproper _ _ hparent n hn
    · obtain rfl := List.mem_singleton.1 hn
      exact hname
  · rw [h.node_of_ne hstaged] at hnode
    have hafter := hplaced.replaced.node place
    split at hafter
    · exact hproper _ _ hafter
    · exact hproper _ _ (hafter.trans hnode)

end Staged.Holds

/-- **A tree is walked where it stands**, as long as the current directory is where its path leads. -/
theorem Path.trail_absolute {root tree base : Path} {links : Nat} {fs'' : FileSystem}
    (htree : ProperName tree.text)
    (hbase : (FileOp.absolute (root.join tree)).result cwd fs' = (.ok base, fs''))
    (hroot : root.isAbsolute = true ∨ fs.reach cwd (pathOf cwd) = .ok cwd)
    (htrail : Trail fs links (origin cwd root) (root.bareSteps ++ [.into tree.text]) place) :
    base.isAbsolute = true ∧ base.endsWithSlash = false ∧
      ∃ links, Trail fs links [] base.bareSteps place := by
  obtain ⟨_, rfl, _⟩ := FileOp.absolute_eq_ok hbase
  obtain ⟨hends, habsolute⟩ : (root.join tree).Ends root.bareSteps tree.text ∧
      (root.join tree).isAbsolute = root.isAbsolute := push_ends root htree
  have hfinal := hends.absoluteFrom (pathOf cwd)
  have hfrom := (absoluteFrom_spec (root.join tree) (pathOf cwd) hends.noSlash).2.1
  have hsolid : (root.bareSteps ++ [PathStep.into tree.text]).filter (· ≠ .stay) =
      root.bareSteps.filter (· ≠ .stay) ++ [.into tree.text] := by
    rw [List.filter_append]
    rfl
  rw [habsolute] at hfinal hfrom
  cases hcase : root.isAbsolute with
  | true =>
      rw [hcase] at hfinal hfrom
      rw [origin, hcase, if_pos rfl] at htrail
      have hrooted : Trail fs links [] ([] ++ (root.bareSteps ++ [.into tree.text])) place := htrail
      obtain ⟨links', _, hshed⟩ := hrooted.shed
      refine ⟨hfrom, hfinal.noSlash, links', ?_⟩
      rw [hfinal.bare, if_pos rfl, List.append_assoc, ← hsolid]
      exact hshed
  | false =>
      have hreach := hroot.resolve_left (by simp [hcase])
      rw [hcase, Path.isAbsolute_pathOf] at hfrom
      rw [hcase] at hfinal
      rw [origin, hcase, if_neg (by decide)] at htrail
      obtain ⟨_, count, _, hhome⟩ := reach_eq_ok_iff.1 hreach
      rw [origin, Path.isAbsolute_pathOf, if_pos rfl, Path.steps_eq] at hhome
      have hhome' : Trail fs count [] (pathOf cwd).bareSteps cwd := by
        split at hhome
        · have hone : Trail fs count [] ((pathOf cwd).bareSteps ++ List.replicate 1 .stay) cwd := hhome
          exact hone.drop_stays
        · rwa [List.append_nil] at hhome
      have henters : fs.Enters cwd := by
        obtain ⟨step, rest, hsteps⟩ :=
          List.exists_cons_of_ne_nil (show root.bareSteps ++ [.into tree.text] ≠ [] by simp)
        rw [hsteps] at htrail
        exact htrail.enters_of_cons
      obtain ⟨links', _, hshed⟩ := (hhome'.append htrail henters).shed
      refine ⟨hfrom, hfinal.noSlash, links', ?_⟩
      rw [hfinal.bare, if_neg (by decide), List.append_assoc, ← hsolid]
      exact hshed

namespace FileOp

/-- A file that lies at the end of a trail becomes a member with its content. -/
theorem member_of_trail {path stored : Path} {m : Tar.Member} {links mode : Nat} {content : Bytes}
    (hmember : (member path stored).result cwd fs = (.ok m, fs')) (hpath : path.isAbsolute = true)
    (htrail : Trail fs links [] path.steps place)
    (hentry : fs.entryAt? place = some (.file content mode)) :
    m.kind = .file ∧ m.content = content := by
  obtain ⟨_, entry, hstat, hcontent⟩ := member_eq_ok hmember
  obtain ⟨place', hreach, hfound⟩ := stat_eq_ok_iff.1 hstat
  obtain ⟨_, links', _, htrail'⟩ := reach_eq_ok_iff.1 hreach
  rw [origin, hpath, if_pos rfl] at htrail'
  obtain rfl := htrail.unique htrail'
  rw [hentry] at hfound
  cases hfound
  exact hcontent _ _ rfl

end FileOp

namespace Tree

variable {tree base : Path} {all : List Found}

/-- A walk begins where the path of the tree leads. -/
theorem locate_of_trail {place' : Location} {links : Nat} (h : fs.locate cwd base = .ok place')
    (hbase : base.isAbsolute = true) (hslash : base.endsWithSlash = false)
    (htrail : Trail fs links [] base.bareSteps place) : place' = place := by
  obtain ⟨_, hreach, hthere⟩ := bind_eq_ok_iff.1 h
  obtain ⟨_, links', _, htrail'⟩ := reach_eq_ok_iff.1 hreach
  rw [origin, hbase, if_pos rfl, Path.steps_eq, hslash, if_neg (by decide), List.append_nil]
    at htrail'
  obtain rfl := htrail.unique htrail'
  split at hthere <;> cases hthere
  rfl

/-- What is listed below a place stands there. -/
theorem exists_node_of_mem_listing {entry : Entry} (h : (names, entry) ∈ listing fs place) :
    ∃ node, fs.nodeAt? (place ++ names) = some node := by
  obtain ⟨hne, node, hnode, _⟩ := mem_below_iff.1 (mem_listing_iff.1 h)
  unfold nodeAt?
  rw [if_neg (by simp [hne])]
  refine Option.isSome_iff_exists.1 (List.lookup_isSome_iff.2 ⟨_, hnode, ?_⟩)
  simp

/-- What a walk finds is named after the way down to it, and it stands there. -/
theorem exists_names_of_mem_walk (hproper : fs.Proper) (h : walk tree base fs cwd = .ok all)
    {found : Found} (hfound : found ∈ all) :
    ∃ names : Location, (∀ name ∈ names, ProperName name) ∧ found.path = below base names ∧
      found.name = nameIn tree names ∧
      (names = [] ∨ ∃ place node, fs.locate cwd base = .ok place ∧
        fs.nodeAt? (place ++ names) = some node) := by
  obtain ⟨place, hplace, h⟩ := bind_eq_ok_iff.1 h
  obtain ⟨root, _, h⟩ := bind_eq_ok_iff.1 h
  cases h
  rcases List.mem_cons.1 hfound with rfl | hfound
  · exact ⟨[], by simp, rfl, rfl, .inl rfl⟩
  · obtain ⟨⟨names, entry⟩, hmem, rfl⟩ := List.mem_map.1 hfound
    obtain ⟨node, hnode⟩ := exists_node_of_mem_listing hmem
    refine ⟨names, fun name hname => ?_, rfl, rfl, .inr ⟨place, node, hplace, hnode⟩⟩
    exact hproper _ _ hnode name (List.mem_append_right _ hname)

/-- What stands below the place that a walk begins at is found. -/
theorem mem_walk {links : Nat} {entry : Entry} (h : walk tree base fs cwd = .ok all)
    (hbase : base.isAbsolute = true) (hslash : base.endsWithSlash = false)
    (htrail : Trail fs links [] base.bareSteps place)
    (hentry : fs.entryAt? (place ++ names) = some entry) (hne : names ≠ []) :
    ⟨below base names, nameIn tree names, entry.isDirectory⟩ ∈ all := by
  obtain ⟨_, hplace, h⟩ := bind_eq_ok_iff.1 h
  obtain ⟨root, _, h⟩ := bind_eq_ok_iff.1 h
  cases h
  obtain rfl := locate_of_trail hplace hbase hslash htrail
  obtain ⟨node, hnode, hshown⟩ := nodeAt?_of_entryAt? hentry
  unfold nodeAt? at hnode
  rw [if_neg (by simp [hne])] at hnode
  have hbelow := mem_listing_iff.2 (mem_below_iff.2 ⟨hne, node, mem_of_lookup hnode, hshown⟩)
  exact List.mem_cons_of_mem _ (List.mem_map_of_mem hbelow)

end Tree

namespace ArchiveSpec.Packed

variable {spec : ArchiveSpec} {before : FileSystem} {staged : Staged} {parent : Location}
variable {output own tree base : Path} {walks : List (Path × List Found)} {program : Tar.Member}
variable {block : Bytes} {members : List Tar.Member} {blocks : List Bytes} {last : String}

/-- The staging file of an archive has the name of one. -/
theorem exists_stagingName
    (h : spec.Packed cwd before made now after staged parent name output own walks program block
      members blocks) :
    ∃ k first, name = stagingName k ∧ staged.path.Ends first name := by
  obtain ⟨directory, k, hpath⟩ := h.candidate
  obtain ⟨hname, first, hends⟩ := h.holds.toHandle.name_eq hpath
  exact ⟨k, first, hname, hends⟩

/-- A path under another name than that of the archive or of a staging file is not left out. -/
theorem not_skipped {path : Path} {first up : List PathStep} {archive : String}
    (h : spec.Packed cwd before made now after staged parent name output own walks program block
      members blocks)
    (hpath : path.Ends first last) (houtput : spec.output.Ends up archive) (hne : last ≠ archive)
    (hne' : ∀ k, last ≠ stagingName k) :
    (!([output, own].any path.sameComponents)) = true := by
  obtain ⟨_, rfl, _⟩ := FileOp.absolute_eq_ok h.outputPath
  obtain ⟨_, rfl, _⟩ := FileOp.absolute_eq_ok h.ownPath
  obtain ⟨k, first', hname, hends⟩ := h.exists_stagingName
  have hfirst := Path.sameComponents_eq_false hpath (houtput.absoluteFrom (pathOf cwd)) hne
  have hsecond := Path.sameComponents_eq_false hpath (hends.absoluteFrom (pathOf cwd)) (hname ▸ hne' k)
  simp [hfirst, hsecond]

/-- Packing takes no directory away. -/
theorem grown
    (h : spec.Packed cwd before made now after staged parent name output own walks program block
      members blocks) : Grown before after := by
  obtain ⟨_, _, hplaced⟩ := h.placed
  exact h.furnished.grown.trans hplaced.grown

/-- What was there before is there while the archive is filled. -/
theorem keptAt_now
    (h : spec.Packed cwd before made now after staged parent name output own walks program block
      members blocks) (place : Location) : KeptAt before now place :=
  (h.furnished.keptAt place).trans fun _ hentry => h.holds.kept.entryAt? hentry

/-- An entry under another name than that of the archive is there when it is finished. -/
theorem keptAt {up : List PathStep} {archive : String}
    (h : spec.Packed cwd before made now after staged parent name output own walks program block
      members blocks)
    (houtput : spec.output.Ends up archive) (hne : last ≠ archive) :
    KeptAt before after (place ++ [last]) := by
  obtain ⟨_, _, hplaced⟩ := h.placed
  obtain ⟨_, _, _, hends, _⟩ := names_iff.1 hplaced.named
  obtain ⟨_, rfl⟩ := hends.unique houtput
  refine (h.furnished.keptAt _).trans (hplaced.keptAt fun heq => hne ?_)
  exact (List.append_singleton_inj.1 heq).2

/-- An entry under another name than those of the archive and of a staging file was the same while
the archive was filled. -/
theorem nodeAt?_now {up : List PathStep} {archive : String}
    (h : spec.Packed cwd before made now after staged parent name output own walks program block
      members blocks)
    (houtput : spec.output.Ends up archive) (hne : last ≠ archive) (hne' : ∀ k, last ≠ stagingName k) :
    now.nodeAt? (place ++ [last]) = after.nodeAt? (place ++ [last]) := by
  obtain ⟨_, _, hplaced⟩ := h.placed
  obtain ⟨k, _, rfl, _⟩ := h.exists_stagingName
  obtain ⟨_, _, _, hends, _⟩ := names_iff.1 hplaced.named
  obtain ⟨_, rfl⟩ := hends.unique houtput
  rw [h.holds.node_of_ne, hplaced.replaced.node, if_neg]
  · exact fun heq => hne (List.append_singleton_inj.1 heq).2
  · exact fun heq => hne' k (List.append_singleton_inj.1 heq).2

/-- A finished archive is read back. -/
theorem read_back
    (h : spec.Packed cwd before made now after staged parent name output own walks program block
      members blocks)
    (hlength : (Gzip.wrap ((block :: blocks).flatten ++ Tar.trailer)).length < 256 ^ 11) :
    Gzip.unwrap? (Gzip.wrap ((block :: blocks).flatten ++ Tar.trailer)) =
        some ((block :: blocks).flatten ++ Tar.trailer) ∧
      Tar.read? ((block :: blocks).flatten ++ Tar.trailer) =
        some ((program :: members).map Tar.Member.listed) := by
  have hpacks : ∀ m ∈ program :: members, m.Fits := by
    have hwrap : (block :: blocks).flatten.length < 256 ^ 11 := by
      have := Inflate.length_le_store ((block :: blocks).flatten ++ Tar.trailer)
      simp only [Gzip.wrap, Gzip.body, List.length_append] at *
      omega
    rw [List.flatten_cons, List.length_append] at hwrap
    intro m hm
    rcases List.mem_cons.1 hm with rfl | hm
    · exact Tar.Member.fits_of_encode h.programBlock (by omega)
    · exact h.packs.fits (by omega) m hm
  refine ⟨Gzip.unwrap?_wrap _, Tar.read?_members ?_ hpacks⟩
  rw [List.map_cons, h.programBlock, h.packs.encoded, List.map_cons]

/-- The binary is found under its own name, which is that of nothing in a tree. -/
theorem listedName_program (hname : program.name = ⟨Layout.toolchainName⟩)
    (htree : ProperName tree.text) (hnames : ∀ name ∈ names, ProperName name) :
    program.listedName ≠ Text.Utf8.encode (Tree.nameIn tree names).text := by
  have hlisted : program.listedName = Text.Utf8.encode Layout.toolchainName := by
    unfold Tar.Member.listedName
    rw [hname]
    decide
  rw [hlisted, Ne, Text.Utf8.encode_inj]
  intro heq
  have hslash : '/' ∈ (Tree.nameIn tree names).chars := by
    rw [Tree.chars_nameIn htree hnames]
    simp
  have hplain : '/' ∉ Layout.toolchainName.toList := by decide
  rw [heq] at hplain
  exact hplain hslash

/-- A tree is walked where it stands, also while the archive is filled. -/
theorem trail_walked {links : Nat}
    (h : spec.Packed cwd before made now after staged parent name output own walks program block
      members blocks)
    (htree : ProperName tree.text)
    (hroot : spec.root.isAbsolute = true ∨ after.reach cwd (pathOf cwd) = .ok cwd)
    (htrail : Trail after links (origin cwd spec.root)
      (spec.root.bareSteps ++ [.into tree.text]) place)
    (hplace : after.HoldsDirectory place)
    (hbase : (FileOp.absolute (spec.root.join tree)).result cwd now = (.ok base, now)) :
    base.isAbsolute = true ∧ base.endsWithSlash = false ∧
      ∃ links, Trail now links [] base.bareSteps place := by
  obtain ⟨_, _, hplaced⟩ := h.placed
  obtain ⟨habsolute, hslash, links', hway⟩ := Path.trail_absolute htree hbase hroot htrail
  exact ⟨habsolute, hslash, links', h.holds.trail_of_placed hplaced hway hplace⟩

/-- **What is found under a name in a tree** is the member for what stands at the end of that name. -/
theorem exists_member_of_listed {l : Tar.Listed}
    (h : spec.Packed cwd before made now after staged parent name output own walks program block
      members blocks)
    (hproper : after.Proper) (htrees : ∀ t ∈ spec.trees, ProperName t.text)
    (htree : tree ∈ spec.trees) (hnames : ∀ n ∈ names, ProperName n)
    (hl : l ∈ (program :: members).map Tar.Member.listed)
    (hname : l.name = Text.Utf8.encode (Tree.nameIn tree names).text) :
    ∃ base m, (FileOp.absolute (spec.root.join tree)).result cwd now = (.ok base, now) ∧
      (FileOp.member (Tree.below base names) (Tree.nameIn tree names)).result cwd now = (.ok m, now) ∧
      l = m.listed ∧
      (names = [] ∨ ∃ place node, now.locate cwd base = .ok place ∧
        now.nodeAt? (place ++ names) = some node) := by
  obtain ⟨_, _, hplaced⟩ := h.placed
  obtain ⟨k, _, rfl, _⟩ := h.exists_stagingName
  have hnow := h.holds.proper_of_placed (properName_stagingName k) hplaced hproper
  obtain ⟨m, hm, rfl⟩ := List.mem_map.1 hl
  rcases List.mem_cons.1 hm with rfl | hm
  · exact (listedName_program h.programName (htrees _ htree) hnames hname).elim
  obtain ⟨found, hfound, hmember⟩ := h.packs.exists_found hm
  obtain ⟨_, _, hencode⟩ := h.packs.exists_block hm
  obtain ⟨w, hw, hfound⟩ := List.mem_flatMap.1 hfound
  obtain ⟨base, all, hbase, hwalk, hfounds⟩ := h.walked w hw
  rw [hfounds] at hfound
  obtain ⟨names', hnames', hpath, hfoundName, hstands⟩ :=
    Tree.exists_names_of_mem_walk hnow hwalk (List.mem_filter.1 hfound).1
  have hw' : w.1 ∈ spec.trees := h.trees ▸ List.mem_map_of_mem hw
  have hmname := (FileOp.member_eq_ok hmember).1.trans hfoundName
  have hlisted : m.listedName = Text.Utf8.encode m.name.text :=
    Tar.Member.listedName_of_proper hencode hmname (htrees _ hw') hnames'
  rw [Tar.Member.listed, hlisted, Text.Utf8.encode_inj, hmname] at hname
  obtain ⟨rfl, rfl⟩ := Tree.nameIn_inj (htrees _ hw') hnames' (htrees _ htree) hnames hname
  rw [hpath, hfoundName] at hmember
  exact ⟨base, m, hbase, hmember, rfl, hstands⟩

/-- **Only what stands in a tree is found under a name in it.** -/
theorem exists_node_of_listed {l : Tar.Listed} {links : Nat}
    (h : spec.Packed cwd before made now after staged parent name output own walks program block
      members blocks)
    (hproper : after.Proper) (htrees : ∀ t ∈ spec.trees, ProperName t.text)
    (htree : tree ∈ spec.trees) (hnames : ∀ n ∈ names, ProperName n) (hne : names ≠ [])
    (hroot : spec.root.isAbsolute = true ∨ after.reach cwd (pathOf cwd) = .ok cwd)
    (htrail : Trail after links (origin cwd spec.root)
      (spec.root.bareSteps ++ [.into tree.text]) place)
    (hplace : after.HoldsDirectory place)
    (hl : l ∈ (program :: members).map Tar.Member.listed)
    (hname : l.name = Text.Utf8.encode (Tree.nameIn tree names).text) :
    ∃ node, now.nodeAt? (place ++ names) = some node := by
  obtain ⟨base, _, hbase, _, _, hstands⟩ :=
    h.exists_member_of_listed hproper htrees htree hnames hl hname
  obtain ⟨habsolute, hslash, _, hway⟩ :=
    h.trail_walked (htrees _ htree) hroot htrail hplace hbase
  obtain ⟨place', node, hlocate, hnode⟩ := hstands.resolve_left hne
  obtain rfl := Tree.locate_of_trail hlocate habsolute hslash hway
  exact ⟨node, hnode⟩

/-- **A packed file.**  A reader finds a file of a tree under its name in the tree, with the content
that it had while the archive was filled, and nothing else under that name. -/
theorem file_listed {front : Location} {archive : String} {up : List PathStep} {content : Bytes}
    {links down mode : Nat}
    (h : spec.Packed cwd before made now after staged parent name output own walks program block
      members blocks)
    (hlength : (Gzip.wrap ((block :: blocks).flatten ++ Tar.trailer)).length < 256 ^ 11)
    (hproper : after.Proper) (htrees : ∀ t ∈ spec.trees, ProperName t.text)
    (htree : tree ∈ spec.trees)
    (hroot : spec.root.isAbsolute = true ∨ after.reach cwd (pathOf cwd) = .ok cwd)
    (htrail : Trail after links (origin cwd spec.root)
      (spec.root.bareSteps ++ [.into tree.text]) place)
    (hplace : after.HoldsDirectory place)
    (hdown : Trail now down place ((front ++ [last]).map .into) (place ++ (front ++ [last])))
    (hnames : ∀ n ∈ front ++ [last], ProperName n)
    (houtput : spec.output.Ends up archive) (hne : last ≠ archive)
    (hne' : ∀ k, last ≠ stagingName k)
    (hentry : now.entryAt? (place ++ (front ++ [last])) = some (.file content mode)) :
    ∃ listed, Tar.read? ((block :: blocks).flatten ++ Tar.trailer) = some listed ∧
      (∃ l ∈ listed, l.name = Text.Utf8.encode (Tree.nameIn tree (front ++ [last])).text) ∧
      ∀ l ∈ listed, l.name = Text.Utf8.encode (Tree.nameIn tree (front ++ [last])).text →
        l.flag = Tar.Kind.file.flag ∧ l.content = content := by
  have hway : ∀ base, (FileOp.absolute (spec.root.join tree)).result cwd now = (.ok base, now) →
      base.isAbsolute = true ∧ base.endsWithSlash = false ∧
        ∃ links, Trail now links [] base.bareSteps place :=
    fun base hbase => h.trail_walked (htrees tree htree) hroot htrail hplace hbase
  -- Whatever the walk, what lies at this end of a tree is the file.
  have hcontent : ∀ base stored m,
      (FileOp.absolute (spec.root.join tree)).result cwd now = (.ok base, now) →
      (FileOp.member (Tree.below base (front ++ [last])) stored).result cwd now = (.ok m, now) →
      m.kind = .file ∧ m.content = content := by
    intro base stored m hbase hmember
    obtain ⟨habsolute, _, links', htrail'⟩ := hway base hbase
    have hends := Path.below_ends base front (hnames last (by simp))
    obtain ⟨hsteps, habsolute'⟩ := Path.below_spec base hnames
    have henters : now.Enters place := by
      obtain ⟨step, rest, hcons⟩ := List.exists_cons_of_ne_nil
        (show (front ++ [last]).map PathStep.into ≠ [] by simp)
      rw [hcons] at hdown
      exact hdown.enters_of_cons
    have hwhole := htrail'.append hdown henters
    rw [← hsteps, hends.bare, ← hends.steps] at hwhole
    exact FileOp.member_of_trail hmember (habsolute'.trans habsolute) hwhole hentry
  refine ⟨_, (h.read_back hlength).2, ?_, ?_⟩
  · obtain ⟨w, hw, rfl⟩ := List.mem_map.1 (h.trees ▸ htree)
    obtain ⟨base, all, hbase, hwalk, hfounds⟩ := h.walked w hw
    obtain ⟨habsolute, hslash, _, htrail'⟩ := hway base hbase
    have hall := Tree.mem_walk hwalk habsolute hslash htrail' hentry (by simp)
    have hends := Path.below_ends base front (hnames last (by simp))
    have hfound : ⟨Tree.below base (front ++ [last]), Tree.nameIn w.1 (front ++ [last]),
        (Entry.file content mode).isDirectory⟩ ∈ w.2 := by
      rw [hfounds]
      exact List.mem_filter.2 ⟨hall, h.not_skipped hends houtput hne hne'⟩
    obtain ⟨m, hm, hmember⟩ := h.packs.exists_member (List.mem_flatMap.2 ⟨w, hw, hfound⟩)
    have hname := (FileOp.member_eq_ok hmember).1
    obtain ⟨_, _, hencode⟩ := h.packs.exists_block hm
    refine ⟨m.listed, List.mem_map_of_mem (List.mem_cons_of_mem _ hm), ?_⟩
    rw [Tar.Member.listed, Tar.Member.listedName_of_proper hencode hname (htrees _ htree) hnames,
      hname]
  · intro l hl hname
    obtain ⟨base, m, hbase, hmember, rfl, _⟩ :=
      h.exists_member_of_listed hproper htrees htree hnames hl hname
    obtain ⟨hkind, hsame⟩ := hcontent base _ m hbase hmember
    exact ⟨by rw [Tar.Member.listed, hkind], hsame⟩

end ArchiveSpec.Packed

end Bootstrap
