import Bootstrap.CommandLine.Run
import Bootstrap.Proofs.Archive.Contents
import Bootstrap.Proofs.Pipeline.Aftermath

/-!
# What was verified is what is shipped

A bootstrap verifies the expander, tests it once more, compiles the auxiliary entry points
with it and packs the source trees.  The stages behind the verification write files under
names that are partly chosen by the user:

    fixpoint       >  macro-expander/build/oftb-macro-expander.ofta
    self-test      >  examples/structure/build/structure.ofta
    auxiliaries    >  macro-expander/build/NAME.ofta
    archive        >  oftb.tar.gz

As long as no auxiliary is written over the verified artifact, and the build directory is
a directory of the tree and not a link out of it, the artifact is on disk and in the
archive, and both hold what the second and the third compilation have printed.

* `Setting.bootstrap_eq_ok` — a bootstrap with an archive, cut at its archive;
* `Orderly` — what keeps the artifact in its place;
* `Shipped` — what a bootstrap leaves behind;
* `bootstrap_ships` — **what was verified is what is shipped**.
-/

namespace Bootstrap

open FileSystem

/-- The names are the usual ones.  The root, the toolchain and the auxiliaries are chosen freely. -/
def Config.IsUsual (c : Config) : Prop :=
  c = { Config.standard c.root with
    toolchain := c.toolchain
    auxiliaries := c.auxiliaries
    echo := c.echo
    toolchainVerbose := c.toolchainVerbose }

namespace Config.IsUsual

variable {c : Config}

theorem expander (h : c.IsUsual) :
    c.expander = ⟨⟨Layout.expanderPackage⟩, Layout.expanderBinary⟩ :=
  congrArg Config.expander h

/-- Where the artifact lies that is promoted. -/
theorem first_ends (h : c.IsUsual) :
    (Fixpoint.first c).path.Ends
        ((c.root.bareSteps ++ [.into "macro-expander"]) ++ [.into "build"])
        "oftb-macro-expander.ofta" ∧
      (Fixpoint.first c).path.isAbsolute = c.root.isAbsolute := by
  have hpath : (Fixpoint.first c).path = c.root.join (Schedule.file c.expander "") := by
    rw [← c.store.artifact_relative c.expander]
    rfl
  have hfile : (Schedule.file ⟨⟨Layout.expanderPackage⟩, Layout.expanderBinary⟩ "").Ends
      [.into "macro-expander", .into "build"] "oftb-macro-expander.ofta" :=
    ⟨by decide +kernel, by decide +kernel⟩
  rw [hpath, h.expander, List.append_assoc]
  exact hfile.join (by decide +kernel) c.root

/-- Where its directory lies. -/
theorem build_ends (h : c.IsUsual) :
    (c.root.join (c.expander.package.push buildDirectory)).Ends
        (c.root.bareSteps ++ [.into "macro-expander"]) "build" ∧
      (c.root.join (c.expander.package.push buildDirectory)).isAbsolute = c.root.isAbsolute := by
  have hbuild : (Path.push ⟨Layout.expanderPackage⟩ buildDirectory).Ends
      [.into "macro-expander"] "build" :=
    ⟨by decide +kernel, by decide +kernel⟩
  rw [h.expander]
  exact hbuild.join (by decide +kernel) c.root

/-- A self-test writes under another name. -/
theorem selfTest_ends (h : c.IsUsual) :
    ∃ first, (c.root.join (Schedule.file c.selfTest "")).Ends first "structure.ofta" := by
  have hprogram : c.selfTest = ⟨⟨Layout.selfTestPackage⟩, Layout.selfTestBinary⟩ :=
    congrArg Config.selfTest h
  have hfile : (Schedule.file ⟨⟨Layout.selfTestPackage⟩, Layout.selfTestBinary⟩ "").Ends
      [.into "examples", .into "structure", .into "build"] "structure.ofta" :=
    ⟨by decide +kernel, by decide +kernel⟩
  rw [hprogram]
  exact ⟨_, (hfile.join (by decide +kernel) c.root).1⟩

/-- The source trees of the archive. -/
theorem sourceTrees (h : c.IsUsual) :
    c.sourceTrees = [⟨Layout.expanderPackage⟩, ⟨Layout.standardLibrary⟩] := by
  have hlibrary : c.standardLibrary = ⟨Layout.standardLibrary⟩ := congrArg Config.standardLibrary h
  unfold Config.sourceTrees
  rw [h.expander, hlibrary]

end Config.IsUsual

namespace CommandLine

variable {cwd : Location}

namespace Setting

variable {σ : Type} {setting : Setting} {runner : Runner σ} {s s' : Session σ}

/-- Showing a result changes no file and issues no command. -/
theorem quiet_conclude (data : Data.Json) (headline : String) (items : List Item) :
    (setting.conclude data headline items : Task σ Failure Unit).Quiet := by
  unfold conclude
  split
  · exact Task.quiet_note _
  · refine (Task.quiet_note _).bind fun _ => (Task.quiet_note _).bind fun _ => ?_
    refine (Task.quiet_forIn (fun item _ => ?_) _).bind fun _ => Task.quiet_pure ()
    exact (Task.quiet_note _).bind fun _ => Task.quiet_pure _

/-- **A bootstrap with an archive**: all stages, then the archive, then what is shown. -/
theorem bootstrap_eq_ok {output : Option Path}
    (h : (setting.bootstrap runner true output).run cwd s = (.ok (), s')) :
    ∃ executable report packed s₁ s₂,
      (Pipeline.complete setting.config setting.environment runner).run cwd s =
        (.ok (executable, report), s₁) ∧
      (ArchiveSpec.ofConfig setting.config executable output).make.run cwd s₁ = (.ok packed, s₂) ∧
      (setting.present report (some packed)).run cwd s₂ = (.ok (), s') ∧
      s'.files = s₂.files ∧ s'.turns = s₂.turns := by
  have hmapped : ∀ {ε ε' α : Type} {f : ε → ε'} {t : Task σ ε α} {a : α} {s s' : Session σ},
      (t.mapError f).run cwd s = (.ok a, s') → t.run cwd s = (.ok a, s') := by
    intro ε ε' α f t a s s' h
    rw [Task.run_mapError] at h
    rcases hrun : t.run cwd s with ⟨e | b, after⟩ <;> rw [hrun] at h <;> cases h
    rfl
  unfold bootstrap at h
  obtain ⟨⟨report, made⟩, s₂, hbuild, hpresent⟩ := Task.run_bind_eq_ok_iff.1 h
  unfold build at hbuild
  obtain ⟨⟨executable, report'⟩, s₁, hstages, hmake⟩ := Task.run_bind_eq_ok_iff.1 hbuild
  obtain ⟨packed, s₂', hpack, hend⟩ := Task.run_bind_eq_ok_iff.1 hmake
  cases hend
  have hquiet : (setting.present report (some packed) : Task σ Failure Unit).Quiet :=
    quiet_conclude _ _ _
  obtain ⟨hfiles, hturns⟩ := hquiet cwd s₂
  have hshown : (setting.present report (some packed)).run cwd s₂ = (.ok (), s') := hpresent
  rw [hshown] at hfiles hturns
  exact ⟨executable, report, packed, s₁, s₂, hmapped hstages, hmapped hpack, hshown, hfiles, hturns⟩

end Setting

variable {host : Host} {setting : Setting} {s s' : Session Unit}

/-- What holds of every tree on a disk, seen from its current directory. -/
structure Ordinary (c : Config) (cwd : Location) (fs : FileSystem) : Prop where
  /-- A relative root begins in the current directory, which is where its own path leads. -/
  root : c.root.isAbsolute = true ∨ fs.reach cwd (pathOf cwd) = .ok cwd
  proper : fs.Proper
  size : ∀ archive, fs.read cwd (c.root.push Layout.archiveName) = .ok archive →
    archive.length < 2 ^ 64

/-- **What keeps the artifact in its place**, seen in the finished tree. -/
structure Orderly (c : Config) (cwd : Location) (s s' : Session Unit) : Prop
    extends Ordinary c cwd s'.files where
  /-- The build directory is a directory itself, not a link to one. -/
  build : ∃ mode,
    s'.files.linkStat cwd (c.root.join (c.expander.package.push buildDirectory)) =
      .ok (.directory mode)
  /-- No auxiliary was written over the artifact. -/
  apart : ∀ new, s'.turns = s.turns ++ new → ∀ t ∈ new, ∀ binary ∈ c.auxiliaries,
    t.call = Schedule.auxiliary c binary →
      t.target? cwd ≠ s'.files.namedPlace? cwd (Fixpoint.first c).path

/-- **What a bootstrap leaves behind**, if `y` is what was verified. -/
structure Shipped (setting : Setting) (host : Host) (cwd : Location) (s s' : Session Unit)
    (y : Bytes) : Prop where
  /-- The second and the third compilation of the fixpoint stage have printed it. -/
  printed : ∃ earlier t₁ t₂ t₃ later,
    s'.turns = s.turns ++ (earlier ++ ([t₁, t₂, t₃] ++ later)) ∧
    earlier.map Turn.call = Schedule.nativeBuild setting.config ++
      (Schedule.prelude setting.config :: Schedule.selfTest setting.config .source) ∧
    [t₁, t₂, t₃].map Turn.call = Schedule.fixpoint setting.config ∧
    t₂.printed? host cwd = some y ∧ t₃.printed? host cwd = some y
  /-- Its digest is the one that is shown for the third generation. -/
  reported : ∃ report packed shown,
    (setting.present report (some packed)).run cwd shown = (.ok (), s') ∧
      report.fixpoint.third.digest = .ofBytes y
  onDisk : s'.files.read cwd (Fixpoint.first setting.config).path = .ok y
  /-- A reader finds a file with this content under its name, and nothing else there. -/
  inArchive : ∃ archive tape listed,
    s'.files.read cwd (setting.config.root.push Layout.archiveName) = .ok archive ∧
    Gzip.unwrap? archive = some tape ∧ Tar.read? tape = some listed ∧
    (∃ l ∈ listed, l.name = Text.Utf8.encode "macro-expander/build/oftb-macro-expander.ofta") ∧
    ∀ l ∈ listed, l.name = Text.Utf8.encode "macro-expander/build/oftb-macro-expander.ofta" →
      l.flag = Tar.Kind.file.flag ∧ l.content = y

/-- No later command was given the place of the artifact. -/
theorem Orderly.target?_ne {c : Config} {tested compiled before : List Turn} {parent : Location}
    (husual : c.IsUsual) (h : Orderly c cwd s s')
    (hturns : s'.turns = s.turns ++ (before ++ (tested ++ compiled)))
    (htested : tested.map Turn.call = Schedule.selfTest c .prebuilt)
    (hcompiled : compiled.map Turn.call = c.auxiliaries.map (Schedule.auxiliary c))
    (hnamed : s'.files.Names cwd (Fixpoint.first c).path parent "oftb-macro-expander.ofta") :
    ∀ t ∈ tested ++ compiled, t.target? cwd ≠ some (parent ++ ["oftb-macro-expander.ofta"]) := by
  intro t ht
  rcases List.mem_append.1 ht with ht | ht
  · -- A self-test command writes to the file of its program, or to no file.
    have hcall : t.call ∈ Schedule.selfTest c .prebuilt := htested ▸ List.mem_map_of_mem ht
    obtain ⟨case, _, hcase⟩ := List.mem_flatMap.1 hcall
    unfold Schedule.selfTestCase at hcase
    intro htarget
    unfold Turn.target? at htarget
    rcases List.mem_cons.1 hcase with hfirst | hsecond
    · obtain ⟨first, hends⟩ := husual.selfTest_ends
      rw [hfirst] at htarget
      obtain ⟨up, _, heq⟩ := namedPlace?_eq_some hends htarget
      have hlast := (List.append_singleton_inj.1 heq).2
      revert hlast
      decide
    · rw [List.mem_singleton.1 hsecond] at htarget
      cases htarget
  · have hcall : t.call ∈ c.auxiliaries.map (Schedule.auxiliary c) :=
      hcompiled ▸ List.mem_map_of_mem ht
    obtain ⟨binary, hbinary, heq⟩ := List.mem_map.1 hcall
    rw [← hnamed.namedPlace?]
    exact h.apart _ hturns t (by simp [ht]) binary hbinary heq.symm

section

variable {before made now : FileSystem} {staged : Staged} {parent tree : Location} {name : String}
variable {output own executable : Path} {walks : List (Path × List Found)} {program : Tar.Member}
variable {block : Bytes} {members : List Tar.Member} {blocks : List Bytes} {c : Config} {links : Nat}

/-- The source trees lie below the root under names that entries can have. -/
theorem properName_sourceTrees (husual : c.IsUsual) : ∀ t ∈ c.sourceTrees, ProperName t.text := by
  rw [husual.sourceTrees]
  decide

theorem expanderPackage_mem (husual : c.IsUsual) : ⟨"macro-expander"⟩ ∈ c.sourceTrees := by
  rw [husual.sourceTrees]
  decide

/-- The artifact has no name of a staging file. -/
theorem artifact_ne_stagingName (k : Nat) : "oftb-macro-expander.ofta" ≠ stagingName k := by
  intro heq
  have hhead := congrArg (fun text => text.toList.head?) heq
  simp [Staged.toList_stagingName] at hhead

/-- The name of the artifact in the archive. -/
theorem nameIn_artifact :
    (Tree.nameIn ⟨"macro-expander"⟩ ["build", "oftb-macro-expander.ofta"]).text =
      "macro-expander/build/oftb-macro-expander.ofta" := by
  decide +kernel

/-- **An artifact that stands in the tree is found in the archive.** -/
theorem Ordinary.artifact_listed {content : Bytes} {mode : Nat} (husual : c.IsUsual)
    (h : Ordinary c cwd s'.files)
    (hpacked : (ArchiveSpec.ofConfig c executable none).Packed cwd before made now s'.files staged
      parent name output own walks program block members blocks)
    (hway : Trail s'.files links (origin cwd c.root) (c.root.bareSteps ++ [.into "macro-expander"]) tree)
    (htree : s'.files.Enters tree) (hbuild : s'.files.Enters (tree ++ ["build"]))
    (hshort : ¬ nameLimit < "build".utf8ByteSize)
    (hentry : before.entryAt? (tree ++ ["build"] ++ ["oftb-macro-expander.ofta"]) =
      some (.file content mode)) :
    ∃ archive tape listed,
      s'.files.read cwd (c.root.push Layout.archiveName) = .ok archive ∧
      Gzip.unwrap? archive = some tape ∧ Tar.read? tape = some listed ∧
      (∃ l ∈ listed, l.name = Text.Utf8.encode "macro-expander/build/oftb-macro-expander.ofta") ∧
      ∀ l ∈ listed, l.name = Text.Utf8.encode "macro-expander/build/oftb-macro-expander.ofta" →
        l.flag = Tar.Kind.file.flag ∧ l.content = content := by
  -- The way down to it was the same while the archive was filled.
  obtain ⟨_, _, hplaced⟩ := hpacked.placed
  have hthere : ∀ place, s'.files.Enters place → now.Enters place := fun place henters =>
    (alikeAt_of_eq (hpacked.holds.node_of_placed hplaced henters.holdsDirectory)).enters henters
  have hentry' := hpacked.keptAt_now _ _ hentry
  obtain ⟨node, hnode, hplain⟩ := exists_plain_of_entryAt? hentry'
  have henters := hthere _ hbuild
  have hdown := (Trail.enter_directory (hthere _ htree) hshort henters.holdsDirectory).append
    (.enter henters (by decide) hnode hplain (.done _)) henters
  have hplace : tree ++ ["build"] ++ ["oftb-macro-expander.ofta"] =
      tree ++ (["build"] ++ ["oftb-macro-expander.ofta"]) := List.append_assoc _ _ _
  rw [hplace] at hdown hentry'
  have hlength := Nat.lt_of_lt_of_le (h.size _ hpacked.readable)
    (show 2 ^ 64 ≤ 256 ^ 11 by decide)
  have hnames : ∀ n ∈ ["build"] ++ ["oftb-macro-expander.ofta"], ProperName n := by decide
  obtain ⟨houtput, _⟩ := Path.push_ends c.root (show ProperName Layout.archiveName by decide)
  obtain ⟨listed, hread, hexists, hsame⟩ := hpacked.file_listed hlength h.proper
    (properName_sourceTrees husual) (expanderPackage_mem husual) h.root hway htree.holdsDirectory
    hdown hnames houtput (by decide) artifact_ne_stagingName hentry'
  rw [List.singleton_append, nameIn_artifact] at hexists hsame
  exact ⟨_, _, listed, hpacked.readable, (hpacked.read_back hlength).1, hread, hexists, hsame⟩

end

/-- **What is not in the tree is not in the archive.**  An artifact that was put out of the tree, by a
link in place of its directory, is not shipped. -/
theorem not_shipped_of_absent {tree : Location} {links : Nat} {y : Bytes}
    (husual : setting.config.IsUsual)
    (h : (setting.bootstrap host.runner true none).run cwd s = (.ok (), s'))
    (hordinary : Ordinary setting.config cwd s'.files)
    (hway : Trail s'.files links (origin cwd setting.config.root)
      (setting.config.root.bareSteps ++ [.into "macro-expander"]) tree)
    (htree : s'.files.HoldsDirectory tree)
    (habsent : s'.files.nodeAt? (tree ++ ["build"] ++ ["oftb-macro-expander.ofta"]) = none) :
    ¬ Shipped setting host cwd s s' y := by
  intro hshipped
  obtain ⟨executable, _, _, s₁, s₂, _, hmake, _, hfiles, _⟩ := Setting.bootstrap_eq_ok h
  obtain ⟨_, made, now, staged, parent, name, output, own, walks, program, block, members, blocks,
    hpacked⟩ := ArchiveSpec.make_eq_ok hmake
  rw [← hfiles] at hpacked
  obtain ⟨archive, tape, listed, hread, hunwrap, htape, ⟨l, hl, hname⟩, _⟩ := hshipped.inArchive
  cases hpacked.readable.symm.trans hread
  have hlength := Nat.lt_of_lt_of_le (hordinary.size _ hread) (show 2 ^ 64 ≤ 256 ^ 11 by decide)
  obtain ⟨hunwrapped, hlisted⟩ := hpacked.read_back hlength
  cases hunwrapped.symm.trans hunwrap
  cases hlisted.symm.trans htape
  rw [← nameIn_artifact] at hname
  obtain ⟨node, hnode⟩ := hpacked.exists_node_of_listed hordinary.proper
    (properName_sourceTrees husual) (expanderPackage_mem husual) (by decide) (by simp)
    hordinary.root hway htree hl hname
  obtain ⟨houtput, _⟩ :=
    Path.push_ends setting.config.root (show ProperName Layout.archiveName by decide)
  rw [List.append_cons, hpacked.nodeAt?_now houtput (by decide) artifact_ne_stagingName, habsent]
    at hnode
  cases hnode

/-- **What was verified is what is shipped.**  If a bootstrap with the usual names and the usual archive
succeeds, and the programs it interprets change no files themselves, then the canonical artifact
and its entry in the archive hold what the second and the third compilation have printed. -/
theorem bootstrap_ships (husual : setting.config.IsUsual)
    (hspares : ∀ artifact arguments,
      host.Spares (setting.config.selectedToolchain.interpret artifact arguments).invocation)
    (h : (setting.bootstrap host.runner true none).run cwd s = (.ok (), s'))
    (horderly : Orderly setting.config cwd s s') :
    ∃ y, Shipped setting host cwd s s' y := by
  obtain ⟨executable, report, packed, s₁, s₂, hcomplete, hmake, hpresent, hfiles, hturns⟩ :=
    Setting.bootstrap_eq_ok h
  obtain ⟨v, v', earlier, tested, compiled, hverify, hearlier, hlater, hearlierCalls, htested,
    hcompiled, hgrown, hkept⟩ := Pipeline.complete_eq_ok hspares hcomplete
  obtain ⟨t₁, t₂, t₃, x, y, mode, directory, n₁, n₂, n₃, hverified, _, hprinted₂, _, hprinted₃⟩ :=
    Fixpoint.verify_prints hspares hverify
  obtain ⟨hpackedTurns, made, now, staged, parent, name, output, own, walks, program, block, members,
    blocks, hpacked⟩ := ArchiveSpec.make_eq_ok hmake
  rw [← hfiles] at hpacked
  have hall : s'.turns = s.turns ++ (earlier ++ [t₁, t₂, t₃] ++ (tested ++ compiled)) := by
    rw [hturns, hpackedTurns, hlater, hverified.turns, hearlier]
    simp
  -- The artifact still has its directory.
  obtain ⟨hfirst, habsolute⟩ := husual.first_ends
  obtain ⟨hbuild, habsolute'⟩ := husual.build_ends
  obtain ⟨hnamed, _⟩ := hverified.named _ (List.mem_cons_of_mem _ List.mem_cons_self)
  obtain ⟨bits, hstat⟩ := horderly.build
  obtain ⟨tree, links, rfl, rfl, hway, htree, hshort, hnamed'⟩ := hnamed.agree_below hbuild hfirst
    (habsolute.trans habsolute'.symm) (hgrown.trans hpacked.grown) hstat
  have hroot : origin cwd (setting.config.root.join
      (setting.config.expander.package.push buildDirectory)) = origin cwd setting.config.root := by
    rw [origin, habsolute', ← origin]
  rw [hroot] at hway
  -- It stands there when the archive is begun, and when the archive is finished.
  have hstood := hkept _ (horderly.target?_ne husual hall htested hcompiled hnamed')
  have hentry := hstood _ hverified.promoted
  obtain ⟨houtput, _⟩ :=
    Path.push_ends setting.config.root (show ProperName Layout.archiveName by decide)
  have hentry' := hpacked.keptAt houtput (by decide) _ hentry
  have hallows : (Entry.file y mode).allows 4 = true := by
    obtain ⟨entry, hshown, hallows, _⟩ := read_eq_ok_iff.1 hverified.read₃
    rw [hverified.bits] at hshown
    cases hshown
    exact hallows
  refine ⟨y, ?_, ?_, ?_, ?_⟩
  · refine ⟨earlier, t₁, t₂, t₃, tested ++ compiled, ?_, hearlierCalls, ?_, hprinted₂, hprinted₃⟩
    · rw [hall, List.append_assoc]
    · exact (follows_verify setting.config host.runner).calls_of_ok hverify hverified.turns
  · exact ⟨report, packed, s₂, hpresent, by rw [hverified.report₃]⟩
  · exact Fixpoint.read_of_promoted hnamed' (by decide) hentry' hallows
  · exact horderly.artifact_listed husual hpacked hway htree hnamed'.enters hshort hentry

/-- What a program of the sample prints: the text that a self-test case expects, or else the last word
of its command line. -/
def sampleOutput (i : Invocation) : Bytes :=
  match SelfTest.cases.find? (·.arguments = i.arguments.drop 2) with
  | some case => Text.Utf8.encode case.expected
  | none => Text.Utf8.encode (i.arguments.getLastD "")

/-- A toolchain whose compiler leaves the artifact in one directory.  All that its programs do is
print. -/
def sampleHost (directory : Location) : Host := fun i sink _ fs =>
  let printed := match sink with
    | .collected => fs
    | .file number => fs.appendTo number (sampleOutput i)
  .ok {
    status := .exited 0
    output := match sink with
      | .collected => sampleOutput i
      | .file _ => []
    errorOutput := []
    files := if i.arguments.head? = some "compile" then
      printed.put (directory ++ ["oftb-macro-expander.ofta"]) (.file [] 0o644) else printed }

theorem sampleHost_spares {i : Invocation} (directory : Location)
    (h : i.arguments.head? ≠ some "compile") : (sampleHost directory).Spares i := by
  intro sink cwd fs run hrun
  simp only [sampleHost, if_neg h, Except.ok.injEq] at hrun
  subst hrun
  cases sink with
  | collected => exact ⟨fun _ => rfl, fun _ _ => rfl, fun _ _ hnone => by cases hnone⟩
  | file number =>
      refine ⟨fun _ => rfl, fun other hne => ?_, fun other file heq hfile => ?_⟩
      · have hother : other ≠ number := by
          rintro rfl
          exact hne rfl
        simp [appendTo, file?_changeFile, hother]
      · cases heq
        refine ⟨sampleOutput i, fs.now, ?_⟩
        simp [appendTo, file?_changeFile, hfile]

/-- A source tree in the root directory, with a toolchain beside it. -/
def sampleFiles (build : Node) : FileSystem where
  nodes := [(["macro-expander"], .directory 0o755 0), (["macro-expander", "build"], build),
    (["store"], .directory 0o755 0), (["ministd"], .directory 0o755 0), (["o"], .file 0)]
  files := [(0, ⟨[], 0o755, 0⟩)]
  now := 0

/-- A setting for the sample tree. -/
def sampleSetting (auxiliaries : List String) : Setting where
  console := Console.ofEnvironment ⟨[]⟩
  format := .json
  config := { Config.standard ⟨"/"⟩ with
    toolchain := .prebuilt ⟨"/o"⟩
    auxiliaries := auxiliaries
    toolchainVerbose := false }
  environment := ⟨[]⟩

/-- A bootstrap of the sample tree.  Only the kernel evaluates it. -/
@[irreducible] def sampleBootstrap (auxiliaries : List String) (directory : Location) (build : Node) :
    Except Failure Unit × Session Unit :=
  ((sampleSetting auxiliaries).bootstrap (sampleHost directory).runner true none).run []
    (Session.start (sampleFiles build) ())

theorem sampleSetting_isUsual (auxiliaries : List String) :
    (sampleSetting auxiliaries).config.IsUsual := rfl

theorem sampleHost_spares_interpret (auxiliaries : List String) (directory : Location)
    (artifact : Artifact) (arguments : List String) :
    (sampleHost directory).Spares
      ((sampleSetting auxiliaries).config.selectedToolchain.interpret artifact arguments).invocation :=
  sampleHost_spares directory (show some "interpret" ≠ some "compile" by decide)

section

variable {auxiliaries : List String} {directory : Location} {build : Node}

/-- A bootstrap of the sample succeeds, and its tree is like one on a disk.  It is evaluated. -/
def Succeeds (auxiliaries : List String) (directory : Location) (build : Node) : Prop :=
  (sampleBootstrap auxiliaries directory build).1.isOk = true ∧
    (∀ x ∈ (sampleBootstrap auxiliaries directory build).2.files.nodes,
      ∀ name ∈ x.1, ProperName name) ∧
    ((sampleBootstrap auxiliaries directory build).2.files.read []
      ((sampleSetting auxiliaries).config.root.push Layout.archiveName)).toOption.all
        (·.length < 2 ^ 64) = true

instance : Decidable (Succeeds auxiliaries directory build) :=
  inferInstanceAs (Decidable (_ ∧ _ ∧ _))

theorem Succeeds.run (h : Succeeds auxiliaries directory build) :
    ((sampleSetting auxiliaries).bootstrap (sampleHost directory).runner true none).run []
        (Session.start (sampleFiles build) ()) =
      (.ok (), (sampleBootstrap auxiliaries directory build).2) := by
  obtain ⟨_, hrun⟩ := eq_of_isOk h.1
  rw [← hrun]
  unfold sampleBootstrap
  rfl

theorem Succeeds.ordinary (h : Succeeds auxiliaries directory build) :
    Ordinary (sampleSetting auxiliaries).config []
      (sampleBootstrap auxiliaries directory build).2.files where
  root := .inl (show (⟨"/"⟩ : Path).isAbsolute = true by decide +kernel)
  proper := proper_of_nodes h.2.1
  size := by
    intro archive hread
    have hsize := h.2.2
    rw [hread] at hsize
    exact of_decide_eq_true hsize

end

/-- The build directory is there in the end, and no command has written over the artifact. -/
theorem sampleBootstrap_evaluated :
    Succeeds ["a"] ["macro-expander", "build"] (.directory 0o755 0) ∧
      ((sampleBootstrap ["a"] ["macro-expander", "build"] (.directory 0o755 0)).2.files.linkStat []
        ((sampleSetting ["a"]).config.root.join
          ((sampleSetting ["a"]).config.expander.package.push buildDirectory))).toOption =
          some (.directory 0o755) ∧
      ∀ t ∈ (sampleBootstrap ["a"] ["macro-expander", "build"] (.directory 0o755 0)).2.turns,
        t.target? [] ≠
          (sampleBootstrap ["a"] ["macro-expander", "build"] (.directory 0o755 0)).2.files.namedPlace?
            [] (Fixpoint.first (sampleSetting ["a"]).config).path := by
  decide +kernel

theorem sampleBootstrap_orderly :
    Orderly (sampleSetting ["a"]).config [] (Session.start (sampleFiles (.directory 0o755 0)) ())
      (sampleBootstrap ["a"] ["macro-expander", "build"] (.directory 0o755 0)).2 where
  toOrdinary := sampleBootstrap_evaluated.1.ordinary
  build := ⟨0o755, eq_ok_of_toOption sampleBootstrap_evaluated.2.1⟩
  apart := by
    intro new hnew t ht binary _ _
    exact sampleBootstrap_evaluated.2.2 t (hnew ▸ List.mem_append_right _ ht)

/-- A bootstrap with one auxiliary entry point ships what it verified. -/
theorem sampleBootstrap_ships :
    (sampleBootstrap ["a"] ["macro-expander", "build"] (.directory 0o755 0)).1.isOk = true ∧
      ∃ y, Shipped (sampleSetting ["a"]) (sampleHost ["macro-expander", "build"]) []
        (Session.start (sampleFiles (.directory 0o755 0)) ())
        (sampleBootstrap ["a"] ["macro-expander", "build"] (.directory 0o755 0)).2 y :=
  ⟨sampleBootstrap_evaluated.1.1, bootstrap_ships (sampleSetting_isUsual ["a"])
    (sampleHost_spares_interpret ["a"] _) sampleBootstrap_evaluated.1.run sampleBootstrap_orderly⟩

/-- An auxiliary whose name leads to the artifact takes its place. -/
theorem overwritten_evaluated :
    Succeeds ["./oftb-macro-expander"] ["macro-expander", "build"] (.directory 0o755 0) ∧
      ((sampleBootstrap ["./oftb-macro-expander"] ["macro-expander", "build"]
        (.directory 0o755 0)).2.files.read []
          (Fixpoint.first (sampleSetting ["./oftb-macro-expander"]).config).path).toOption =
        some (Text.Utf8.encode "./oftb-macro-expander") ∧
      (sampleBootstrap ["./oftb-macro-expander"] ["macro-expander", "build"]
        (.directory 0o755 0)).2.turns[7]?.bind
          (·.printed? (sampleHost ["macro-expander", "build"]) []) =
        some (Text.Utf8.encode "oftb-macro-expander") := by
  decide +kernel

/-- A link in place of the build directory leads out of the tree. -/
theorem linked_evaluated :
    Succeeds [] ["store"] (.link "../store") ∧
      (sampleBootstrap [] ["store"] (.link "../store")).2.files.entryAt? ["macro-expander"] =
        some (.directory 0o755) ∧
      (sampleBootstrap [] ["store"] (.link "../store")).2.files.nodeAt?
        (["macro-expander"] ++ ["build"] ++ ["oftb-macro-expander.ofta"]) = none := by
  decide +kernel

/-- **Neither condition can be left out.**  An auxiliary can be written over what was verified, and an
artifact behind a link is not in the archive, though the toolchain does nothing but print. -/
theorem sampleBootstrap_not_shipped :
    (∀ auxiliaries, (sampleSetting auxiliaries).config.IsUsual) ∧
    (∀ directory i, i.arguments.head? ≠ some "compile" → (sampleHost directory).Spares i) ∧
    (Succeeds ["./oftb-macro-expander"] ["macro-expander", "build"] (.directory 0o755 0) ∧
      ¬ ∃ y, Shipped (sampleSetting ["./oftb-macro-expander"])
        (sampleHost ["macro-expander", "build"]) []
        (Session.start (sampleFiles (.directory 0o755 0)) ())
        (sampleBootstrap ["./oftb-macro-expander"] ["macro-expander", "build"]
          (.directory 0o755 0)).2 y) ∧
    Succeeds [] ["store"] (.link "../store") ∧
      ¬ ∃ y, Shipped (sampleSetting []) (sampleHost ["store"]) []
        (Session.start (sampleFiles (.link "../store")) ())
        (sampleBootstrap [] ["store"] (.link "../store")).2 y := by
  refine ⟨sampleSetting_isUsual, fun directory i => sampleHost_spares directory,
    ⟨overwritten_evaluated.1, ?_⟩, linked_evaluated.1, ?_⟩
  · rintro ⟨y, hshipped⟩
    obtain ⟨_, hread, hthird⟩ := overwritten_evaluated
    obtain ⟨earlier, t₁, t₂, t₃, later, hturns, hearlier, _, _, hprinted⟩ := hshipped.printed
    have hlength : earlier.length = 5 := by
      rw [← List.length_map Turn.call, hearlier]
      rfl
    have hnew : (sampleBootstrap ["./oftb-macro-expander"] ["macro-expander", "build"]
        (.directory 0o755 0)).2.turns = earlier ++ ([t₁, t₂, t₃] ++ later) := hturns
    rw [hnew, List.getElem?_append_right (by omega), hlength] at hthird
    have hoverwritten := eq_ok_of_toOption hread
    rw [hshipped.onDisk] at hoverwritten
    cases hoverwritten
    have hsame := hprinted.symm.trans hthird
    simp only [Option.some.injEq, Text.Utf8.encode_inj] at hsame
    revert hsame
    decide
  · rintro ⟨y, hshipped⟩
    obtain ⟨hsucceeds, htree, habsent⟩ := linked_evaluated
    have hplace := holdsDirectory_iff.2 ⟨_, htree⟩
    have horigin : origin [] (sampleSetting []).config.root = [] := by decide +kernel
    have hsteps : (sampleSetting []).config.root.bareSteps = [] := by decide +kernel
    have hway := Trail.enter_directory (enters_root _)
      (show ¬ nameLimit < "macro-expander".utf8ByteSize by decide) hplace
    rw [← horigin, ← List.nil_append [PathStep.into _], ← hsteps] at hway
    exact not_shipped_of_absent (sampleSetting_isUsual []) hsucceeds.run hsucceeds.ordinary hway
      hplace habsent hshipped

end CommandLine

end Bootstrap
