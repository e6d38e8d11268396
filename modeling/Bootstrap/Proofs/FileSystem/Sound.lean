import Bootstrap.Proofs.FileSystem.Absolute
import Bootstrap.Proofs.FileSystem.Directories
import Bootstrap.Proofs.FileSystem.Staging

/-!
# Trees that a disk can hold

On a disk every entry has a name that is one, no two entries of a directory have the same,
and what has an entry in it is a directory.  Making directories and a staging file keeps it
so.  In such a tree the path of a place leads to that place, if it leads anywhere.

* `Sound` — a tree that a disk can hold;
* `FileOp.Keeps` — an operation that keeps a property of the tree, closed under bind;
* `Staged.keeps_create` — a staging file and the directories that it lies in;
* `Trail.proper` — who arrives has been asked for names of entries only;
* `Sound.eq_of_absolute` — **a path made absolute leads to where the path leads**.
-/

namespace Bootstrap

open FileSystem

namespace FileSystem

variable {fs fs' : FileSystem} {cwd here parent place : Location} {name : String} {node : Node}
variable {names : Location} {links : Nat} {steps rest : List PathStep}

/-- Every name in the tree is one that an entry can have. -/
def Proper (fs : FileSystem) : Prop :=
  ∀ place node, fs.nodeAt? place = some node → ∀ name ∈ place, ProperName name

theorem proper_of_nodes (h : ∀ x ∈ fs.nodes, ∀ name ∈ x.1, ProperName name) : fs.Proper := by
  intro place node hnode
  unfold nodeAt? at hnode
  split at hnode
  · rename_i hroot
    simp [hroot]
  · exact h _ (mem_of_lookup hnode)

/-- A tree that a disk can hold. -/
structure Sound (fs : FileSystem) : Prop where
  proper : fs.Proper
  single : (fs.nodes.map Prod.fst).Nodup
  inside : ∀ parent name, fs.nodeAt? (parent ++ [name]) ≠ none → fs.HoldsDirectory parent

/-- A tree is looked through entry by entry. -/
theorem sound_of_nodes (hnames : ∀ x ∈ fs.nodes, ∀ name ∈ x.1, ProperName name)
    (hsingle : (fs.nodes.map Prod.fst).Nodup)
    (hinside : ∀ x ∈ fs.nodes, (fs.nodeAt? x.1.dropLast).map Node.isDirectory = some true) :
    fs.Sound where
  proper := proper_of_nodes hnames
  single := hsingle
  inside := by
    intro parent name hsome
    unfold nodeAt? at hsome
    rw [if_neg (by simp)] at hsome
    obtain ⟨node, hnode⟩ := Option.ne_none_iff_exists'.1 hsome
    have hparent := hinside _ (mem_of_lookup hnode)
    rw [List.dropLast_concat] at hparent
    obtain ⟨above, habove, hdirectory⟩ := Option.map_eq_some_iff.1 hparent
    cases above with
    | directory mode time => exact ⟨mode, time, habove⟩
    | _ => cases hdirectory

namespace Sound

/-- What the files hold does not matter. -/
theorem congr (h : fs.Sound) (hnodes : fs'.nodes = fs.nodes) : fs'.Sound := by
  have hsame : ∀ place, fs'.nodeAt? place = fs.nodeAt? place := by
    intro place
    unfold nodeAt?
    rw [hnodes]
  refine ⟨fun place node hnode => ?_, hnodes ▸ h.single, fun parent name hsome => ?_⟩
  · rw [hsame] at hnode
    exact h.proper place node hnode
  · rw [hsame] at hsome
    obtain ⟨mode, time, hparent⟩ := h.inside parent name hsome
    exact ⟨mode, time, (hsame parent).trans hparent⟩

/-- A free name in a directory can be given to something. -/
theorem putNode (h : fs.Sound) (hname : ProperName name) (hparent : fs.HoldsDirectory parent)
    (hfree : fs.nodeAt? (parent ++ [name]) = none) :
    (fs.putNode (parent ++ [name]) node).Sound := by
  have hnode := fs.nodeAt?_putNode (append_ne_nil parent name) node
  have hstill : ∀ place, fs.HoldsDirectory place →
      (fs.putNode (parent ++ [name]) node).HoldsDirectory place := by
    rintro place ⟨mode, time, hplace⟩
    refine ⟨mode, time, ?_⟩
    rw [hnode, if_neg, hplace]
    rintro rfl
    rw [hfree] at hplace
    cases hplace
  constructor
  · intro place other hother n hn
    rw [hnode] at hother
    split at hother
    · rename_i hplace
      obtain ⟨mode, time, hdirectory⟩ := hparent
      rw [hplace, List.mem_append] at hn
      rcases hn with hn | hn
      · exact h.proper _ _ hdirectory n hn
      · exact List.mem_singleton.1 hn ▸ hname
    · exact h.proper _ _ hother n hn
  · show ((parent ++ [name], node) :: (fs.erase (parent ++ [name])).nodes).map Prod.fst |>.Nodup
    rw [List.map_cons, List.nodup_cons]
    refine ⟨?_, h.single.sublist (List.filter_sublist.map _)⟩
    rintro hmem
    obtain ⟨x, hx, heq⟩ := List.mem_map.1 hmem
    have hne := of_decide_eq_true (List.mem_filter.1 hx).2
    exact hne heq
  · intro up last hsome
    rw [hnode] at hsome
    split at hsome
    · rename_i hplace
      obtain ⟨rfl, _⟩ := List.append_inj' hplace rfl
      exact hstill _ hparent
    · exact hstill _ (h.inside up last hsome)

/-- Whatever has something below it is a directory. -/
theorem holdsDirectory_above (h : fs.Sound) (hsome : fs.nodeAt? (place ++ names) ≠ none)
    (hnames : names ≠ []) : fs.HoldsDirectory place := by
  induction names generalizing place with
  | nil => exact (hnames rfl).elim
  | cons name more ih =>
      rw [List.append_cons] at hsome
      refine h.inside place name ?_
      by_cases hmore : more = []
      · rwa [hmore, List.append_nil] at hsome
      · obtain ⟨_, _, hnode⟩ := ih hsome hmore
        simp [hnode]

/-- What is above something that is there is there. -/
theorem holdsDirectory_of_prefix (h : fs.Sound) {front : Location} (hsome : fs.HoldsDirectory place)
    (hfront : front <+: place) : fs.HoldsDirectory front := by
  obtain ⟨more, rfl⟩ := hfront
  by_cases hmore : more = []
  · rwa [hmore, List.append_nil] at hsome
  · obtain ⟨mode, time, hnode⟩ := hsome
    exact h.holdsDirectory_above (by simp [hnode]) hmore

end Sound

/-! ### Walks -/

/-- Who arrives has been asked for names of entries only. -/
theorem Trail.proper (hproper : fs.Proper) (h : Trail fs links here steps place)
    (hplace : fs.nodeAt? place ≠ none) : ∀ name, .into name ∈ steps → ProperName name := by
  have hentry : ∀ {here : Location} {name : String} {node : Node},
      fs.nodeAt? (here ++ [name]) = some node → ProperName name :=
    fun hnode => hproper _ _ hnode _ (by simp)
  induction h with
  | done => simp
  | stay _ _ ih => simpa using ih hplace
  | up _ _ ih => simpa using ih hplace
  | missing _ _ hnone => exact (hplace hnone).elim
  | follow _ _ hlink _ _ ih =>
      intro n hn
      rcases List.mem_cons.1 hn with heq | hn
      · cases heq
        exact hentry hlink
      · exact ih hplace n (List.mem_append_right _ hn)
  | enter _ _ hnode _ _ ih =>
      intro n hn
      rcases List.mem_cons.1 hn with heq | hn
      · cases heq
        exact hentry hnode
      · exact ih hplace n hn

/-- What is left of a walk behind a place that its first steps lead to. -/
theorem Trail.remainder {first : List PathStep} {count : Nat} {middle : Location}
    (h : Trail fs links here (first ++ rest) place) (hfirst : Trail fs count here first middle) :
    ∃ links, Trail fs links middle rest place := by
  by_cases hrest : rest = []
  · rw [hrest, List.append_nil] at h
    rw [hrest, h.unique hfirst]
    exact ⟨0, .done _⟩
  · obtain ⟨_, n, other, _, hleft, hright⟩ := h.split hrest
    rw [hleft.unique hfirst] at hright
    exact ⟨n, hright⟩

/-- A walk down past no link goes on from where it has come to. -/
theorem Trail.down (h : Trail fs links here (names.map .into ++ rest) place)
    (hplain : ∀ front, front <+: names → front ≠ [] →
      ∀ target, fs.nodeAt? (here ++ front) ≠ some (.link target)) :
    ∃ links, Trail fs links (here ++ names) rest place := by
  induction names generalizing here links with
  | nil =>
      rw [List.append_nil]
      exact ⟨links, h⟩
  | cons name more ih =>
      have hnext := hplain [name] (by simp) (by simp)
      have hcut : Trail fs links here (.into name :: (more.map .into ++ rest)) place := h
      have htail : ∃ links, Trail fs links (here ++ [name]) (more.map .into ++ rest) place := by
        generalize more.map PathStep.into ++ rest = tail at hcut
        cases hcut with
        | missing => exact ⟨0, .done _⟩
        | follow _ _ hlink => exact (hnext _ hlink).elim
        | enter _ _ _ _ tail => exact ⟨_, tail⟩
      obtain ⟨_, htail⟩ := htail
      rw [List.append_cons]
      refine ih htail fun front hfront _ target => ?_
      rw [List.append_assoc]
      exact hplain _ (List.cons_prefix_cons.2 ⟨rfl, hfront⟩) (by simp) target

/-- A walk down past no link ends below where it began. -/
theorem Trail.down_names (h : Trail fs links here (names.map .into) place)
    (hplain : ∀ front, front <+: names → front ≠ [] →
      ∀ target, fs.nodeAt? (here ++ front) ≠ some (.link target)) :
    place = here ++ names := by
  rw [← List.append_nil (names.map _)] at h
  obtain ⟨_, hend⟩ := h.down hplain
  cases hend
  rfl

theorem HoldsDirectory.ne_link (h : fs.HoldsDirectory place) (target : String) :
    fs.nodeAt? place ≠ some (.link target) := by
  obtain ⟨_, _, hnode⟩ := h
  simp [hnode]

end FileSystem

namespace Path

variable {p : Path} {name : String} {place : Location}

theorem mem_of_mem_splitOn {c d : Char} {stretch text : List Char}
    (hstretch : stretch ∈ text.splitOn c) (hd : d ∈ stretch) : d ∈ text := by
  induction text generalizing stretch with
  | nil => simp_all
  | cons x rest ih =>
      rw [List.splitOn_cons_eq_if_modifyHead] at hstretch
      split at hstretch
      · rcases List.mem_cons.1 hstretch with rfl | hstretch
        · simp at hd
        · exact List.mem_cons_of_mem _ (ih hstretch hd)
      · cases hrest : rest.splitOn c with
        | nil => simp [hrest] at hstretch
        | cons head tail =>
            rw [hrest, List.modifyHead_cons] at hstretch
            rcases List.mem_cons.1 hstretch with rfl | hstretch
            · rcases List.mem_cons.1 hd with rfl | hd
              · exact List.mem_cons_self
              · exact List.mem_cons_of_mem _ (ih (by simp [hrest]) hd)
            · exact List.mem_cons_of_mem _ (ih (by simp [hrest, hstretch]) hd)

/-- A name that a path asks for can be one of an entry, if the path can be given to a call. -/
theorem properName_of_mem (hnull : p.hasNull = false) (h : .into name ∈ p.bareSteps) :
    ProperName name := by
  obtain ⟨stretch, hmem, hstretch⟩ := List.mem_filterMap.1 h
  obtain ⟨rfl, hnil, hdot, hdots⟩ := PathStep.ofStretch_eq_into_iff.1 hstretch
  refine ⟨hnil, hdot, hdots, fun c hc => ⟨?_, ?_⟩⟩
  · rintro rfl
    exact not_mem_of_mem_splitOn hmem hc
  · intro hzero
    have hchar : c ∈ p.chars := mem_of_mem_splitOn hmem hc
    have hany := List.any_eq_false.1 hnull c hchar
    simp [hzero] at hany

/-- So can the last one. -/
theorem properName_of_last (hnull : p.hasNull = false)
    (hlast : Last.name name = Last.ofStep p.bareSteps.getLast?) : ProperName name := by
  cases hstep : p.bareSteps.getLast? with
  | none => rw [hstep] at hlast; cases hlast
  | some step =>
      rw [hstep] at hlast
      cases step <;> cases hlast
      exact properName_of_mem hnull (List.mem_of_getLast? hstep)

/-- Stretches that are names of entries ask for these names. -/
theorem filterMap_ofStretch_names (hnames : ∀ name ∈ place, ProperName name) :
    (place.map String.toList).filterMap PathStep.ofStretch = place.map .into := by
  induction place with
  | nil => rfl
  | cons name rest ih =>
      obtain ⟨hnil, hdot, hdots, _⟩ := hnames name List.mem_cons_self
      rw [List.map_cons, List.filterMap_cons_some
        (PathStep.ofStretch_eq_into_iff.2 ⟨rfl, hnil, hdot, hdots⟩),
        ih fun n hn => hnames n (List.mem_cons_of_mem _ hn), List.map_cons]

/-- The path of a place takes the names on the way down to it. -/
theorem bareSteps_pathOf (hnames : ∀ name ∈ place, ProperName name) :
    (pathOf place).bareSteps = place.map .into := by
  unfold pathOf
  split
  · rename_i hroot
    rw [hroot]
    decide
  · have htext : (⟨"/" ++ String.intercalate "/" place⟩ : Path) =
        ofChars (List.intercalate ['/'] ([] :: place.map String.toList)) := by
      obtain ⟨name, rest, rfl⟩ := List.exists_cons_of_ne_nil ‹place ≠ []›
      refine congrArg Path.mk (String.toList_inj.1 ?_)
      rw [String.toList_ofList, String.toList_append, String.toList_intercalate]
      rfl
    have hslash : ∀ part ∈ [] :: place.map String.toList, '/' ∉ part := by
      intro part hpart
      rcases List.mem_cons.1 hpart with rfl | hpart
      · simp
      · obtain ⟨name, hname, rfl⟩ := List.mem_map.1 hpart
        exact (hnames name hname).noSlash
    rw [htext, bareSteps, stretches_ofChars_intercalate (by simp) hslash,
      List.filterMap_cons_none rfl, filterMap_ofStretch_names hnames]

theorem solidSteps_absoluteFrom (p here : Path) :
    (p.absoluteFrom here).solidSteps =
      (if p.isAbsolute then [] else here.solidSteps) ++ p.solidSteps := by
  unfold solidSteps
  rw [(absoluteFrom_steps p here).1, List.filter_append]
  unfold solidSteps
  rw [List.filter_filter]
  split <;> simp

theorem solidSteps_pathOf (hnames : ∀ name ∈ place, ProperName name) :
    (pathOf place).solidSteps = place.map .into := by
  unfold solidSteps
  rw [bareSteps_pathOf hnames, List.filter_eq_self]
  simp

end Path

namespace FileSystem

variable {fs : FileSystem} {cwd place top : Location} {p q : Path} {links : Nat}

/-- Where a path leads, its solid steps lead. -/
theorem trail_of_reach (h : fs.reach cwd p = .ok place) :
    ∃ links, Trail fs links (origin cwd p) p.solidSteps place := by
  obtain ⟨_, links, _, htrail⟩ := reach_eq_ok_iff.1 h
  have hbare : Trail fs links (origin cwd p) ([] ++ p.bareSteps) place := by
    rw [Path.steps_eq] at htrail
    split at htrail
    · have hone : Trail fs links (origin cwd p) (p.bareSteps ++ List.replicate 1 .stay) place := htrail
      exact hone.drop_stays
    · rwa [List.append_nil] at htrail
  obtain ⟨links', _, hshed⟩ := hbare.shed
  exact ⟨links', hshed⟩

/-- Steps behind the path of a directory lead where they lead from that directory. -/
theorem Sound.trail_home (h : fs.Sound) (hcwd : p.isAbsolute = true ∨ fs.HoldsDirectory cwd)
    {rest : List PathStep}
    (htrail : Trail fs links []
      ((if p.isAbsolute then [] else (pathOf cwd).solidSteps) ++ rest) place) :
    ∃ links, Trail fs links (origin cwd p) rest place := by
  cases habsolute : p.isAbsolute with
  | true =>
      rw [habsolute, if_pos rfl, List.nil_append] at htrail
      rw [origin, habsolute, if_pos rfl]
      exact ⟨links, htrail⟩
  | false =>
      have hhere := hcwd.resolve_left (by simp [habsolute])
      obtain ⟨_, _, hnode⟩ := id hhere
      rw [habsolute, if_neg (by decide), Path.solidSteps_pathOf (h.proper _ _ hnode)] at htrail
      rw [origin, habsolute, if_neg (by decide), ← List.nil_append cwd]
      exact htrail.down fun front hfront _ => (h.holdsDirectory_of_prefix hhere hfront).ne_link

/-- **A path made absolute leads to where the path leads**, if it leads anywhere. -/
theorem Sound.eq_of_absolute (h : fs.Sound) (hcwd : p.isAbsolute = true ∨ fs.HoldsDirectory cwd)
    (hreach : fs.reach cwd p = .ok top)
    (htrail : Trail fs links [] (p.absoluteFrom (pathOf cwd)).solidSteps place) : place = top := by
  obtain ⟨_, hway⟩ := trail_of_reach hreach
  rw [Path.solidSteps_absoluteFrom] at htrail
  obtain ⟨_, hhome⟩ := h.trail_home hcwd htrail
  exact hhome.unique hway

end FileSystem

namespace FileOp

variable {ε ε' α β : Type} {op : FileOp ε α} {next : α → FileOp ε β} {P : FileSystem → Prop}

/-- The operation keeps a property of the tree, whatever comes of it. -/
def Keeps (P : FileSystem → Prop) (op : FileOp ε α) : Prop :=
  ∀ cwd fs, P fs → P (op.result cwd fs).2

theorem Looks.keeps (h : op.Looks) : op.Keeps P := by
  intro cwd fs hfs
  rwa [h cwd fs]

theorem Keeps.bind (h : op.Keeps P) (hnext : ∀ a, (next a).Keeps P) : (op >>= next).Keeps P := by
  intro cwd fs hfs
  have hop := h cwd fs hfs
  rw [result_bind]
  rcases hresult : op.result cwd fs with ⟨_ | a, middle⟩
  · rwa [hresult] at hop
  · rw [hresult] at hop
    exact hnext a cwd middle hop

theorem Keeps.attempt (h : op.Keeps P) :
    (FileOp.attempt op : FileOp ε' (Except ε α)).Keeps P := h

theorem keeps_makeDirectory (p : Path) : (makeDirectory p).Keeps Sound := by
  intro cwd fs hsound
  unfold makeDirectory
  rw [result_checkPath_bind, result_change]
  cases hnull : p.hasNull with
  | true => exact hsound
  | false =>
      simp only [Bool.false_eq_true, if_false]
      split
      · rename_i made hmade
        obtain ⟨parent, name, slash, hnamed, _, hfree, rfl⟩ := makeDirectory_eq_ok hmade
        obtain ⟨_, _, henters, hlast, _⟩ := reachParent_eq_ok_iff.1 hnamed
        exact hsound.putNode (Path.properName_of_last hnull hlast) henters.holdsDirectory hfree
      · exact hsound

theorem keeps_makeAncestors (paths : List Path) : (makeAncestors paths).Keeps Sound := by
  induction paths with
  | nil => exact looks_fail.keeps
  | cons p up ih =>
      have hmade : (attempt (makeDirectory p) : FileOp IoError _).Keeps Sound :=
        (keeps_makeDirectory p).attempt
      unfold makeAncestors
      split
      · exact (looks_pure ()).keeps
      · refine hmade.bind fun outcome => ?_
        split
        · exact (looks_pure ()).keeps
        · split
          · exact ih.bind fun _ => hmade.bind fun _ => (looks_settle _ _).keeps
          · exact (looks_settle _ _).keeps

end FileOp

theorem properName_stagingName (k : Nat) : ProperName (stagingName k) := by
  have htext := Staged.toList_stagingName k
  refine ⟨by simp [htext], by simp [htext], by simp [htext], ?_⟩
  intro c hc
  rw [htext] at hc
  simp only [List.mem_cons, List.mem_append, List.mem_replicate] at hc
  rcases hc with rfl | rfl | rfl | rfl | ⟨_, rfl⟩ | hc
  · decide
  · decide
  · decide
  · decide
  · decide
  · have hdigit := Nat.isDigit_of_mem_toDigits (by decide) (by decide) hc
    have hlow : 48 ≤ c.toNat := by
      simp only [Char.isDigit, Bool.and_eq_true, decide_eq_true_eq, ge_iff_le,
        UInt32.le_iff_toNat_le] at hdigit
      exact hdigit.1
    refine ⟨?_, by omega⟩
    rintro rfl
    revert hlow
    decide

namespace Staged

/-- A staging file has the name that was drawn for it. -/
theorem Handle.name_eq {before : FileSystem} {cwd parent : Location} {s : Staged} {name : String}
    {directory : Path} {k : Nat} (h : Handle before cwd s parent name)
    (hpath : s.path = Path.push directory (stagingName k)) :
    name = stagingName k ∧ ∃ first, s.path.Ends first name := by
  obtain ⟨hends, _⟩ := Path.push_ends directory (properName_stagingName k)
  rw [← hpath] at hends
  obtain ⟨_, _, first, hends', _⟩ := FileSystem.names_iff.1 h.named
  obtain ⟨_, rfl⟩ := hends.unique hends'
  exact ⟨rfl, first, hends'⟩

theorem keeps_createEmpty (path : Path) : (createEmpty path).Keeps Sound := by
  intro cwd fs hsound
  unfold createEmpty
  rw [FileOp.result_checkPath_bind, FileOp.result_change]
  cases hnull : path.hasNull with
  | true => exact hsound
  | false =>
      simp only [Bool.false_eq_true, if_false]
      split
      · rename_i made hmade
        obtain ⟨parent, name, hnamed, _, hfree, _, rfl⟩ := createNew_eq_ok_iff.1 hmade
        obtain ⟨_, _, henters, hlast, _⟩ := reachParent_eq_ok_iff.1 hnamed
        have hname := Path.properName_of_last hnull hlast
        have hput : (fs.putNode (parent ++ [name]) (.file fs.freshNumber)).Sound :=
          hsound.putNode hname henters.holdsDirectory hfree
        exact hput.congr rfl
      · exact hsound

theorem keeps_createIn (directory : Path) : (createIn directory).Keeps Sound := by
  refine FileOp.Looks.keeps (fun _ _ => rfl) |>.bind fun fs => ?_
  refine FileOp.Looks.keeps (fun _ _ => rfl) |>.bind fun cwd => ?_
  refine (keeps_createEmpty _).attempt.bind fun outcome => ?_
  split
  · exact (FileOp.looks_pure _).keeps
  · exact FileOp.looks_fail.keeps

/-- **A staging file and the directories that it lies in** can be on a disk. -/
theorem keeps_create (destination : Path) : (create destination).Keeps Sound := by
  refine (FileOp.keeps_makeAncestors _).bind fun _ => ?_
  exact (looks_fromRoot _).keeps.bind fun _ => keeps_createIn _

end Staged

end Bootstrap
