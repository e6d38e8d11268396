import Bootstrap.Archive.Package
import Bootstrap.Proofs.FileSystem.Place
import Bootstrap.Proofs.Running

/-!
# Absolute paths

A path that is made absolute loses the steps that stay in place and nothing else, and a
walk does not miss them.  So it leads to where the path led, as long as the current
directory is where its own path leads.

* `ProperName` — a name that an entry of a directory can have;
* `Path.bareSteps_join` — the steps of a path that is joined to another one;
* `Path.bareSteps_absoluteFrom` — the steps of a path made absolute;
* `Trail.shed` — a walk does not miss the steps that stay in place.
-/

namespace Bootstrap

/-- A name that an entry of a directory can have. -/
def ProperName (name : String) : Prop :=
  name.toList ≠ [] ∧ name.toList ≠ ['.'] ∧ name.toList ≠ ['.', '.'] ∧
    ∀ c ∈ name.toList, c ≠ '/' ∧ c.toNat ≠ 0

instance (name : String) : Decidable (ProperName name) :=
  -- Every character of the name is tried, not every character there is.
  let inner : Decidable (∀ c ∈ name.toList, c ≠ '/' ∧ c.toNat ≠ 0) := List.decidableBAll _ _
  @instDecidableAnd _ _ _ (@instDecidableAnd _ _ _ (@instDecidableAnd _ _ _ inner))

theorem ProperName.noSlash {name : String} (h : ProperName name) : '/' ∉ name.toList :=
  fun hmem => (h.2.2.2 _ hmem).1 rfl

namespace Path

variable {p q left right here : Path} {name : String}

/-! ### Joining -/

/-- What the stretches of a joined text stand for: what those of both sides do. -/
theorem filterMap_stretches_join {α : Type} {f : List Char → Option α} (hf : f [] = none)
    (left right : Path) :
    (left.join right).stretches.filterMap f =
      (if right.isAbsolute then [] else left.stretches.filterMap f) ++
        right.stretches.filterMap f := by
  have hchars := chars_join left right
  unfold stretches
  rw [hchars]
  split
  · rfl
  · rcases lead_cases left with ⟨hempty, hlead⟩ | ⟨up, hlead⟩
    · simp [hempty, hlead, hf]
    · have hleft : (left.chars.splitOn '/').filterMap f = (up.splitOn '/').filterMap f := by
        unfold lead at hlead
        split at hlead
        · rw [hlead, List.splitOn_append_cons_self, List.filterMap_append]
          simp [hf]
        · rw [(List.append_inj' hlead rfl).1]
      rw [hlead, hleft, List.append_assoc, List.singleton_append, List.splitOn_append_cons_self,
        List.filterMap_append]

/-- The steps of a joined text: those of both sides. -/
theorem bareSteps_join (left right : Path) :
    (left.join right).bareSteps =
      (if right.isAbsolute then [] else left.bareSteps) ++ right.bareSteps :=
  filterMap_stretches_join rfl left right

theorem isAbsolute_join (left right : Path) :
    (left.join right).isAbsolute = (left.isAbsolute || right.isAbsolute) := by
  have hchars := chars_join left right
  cases hright : right.isAbsolute with
  | true =>
      rw [hright, if_pos rfl] at hchars
      unfold isAbsolute at hright ⊢
      rw [hchars, hright, Bool.or_true]
  | false =>
      rw [hright, if_neg (by decide)] at hchars
      unfold isAbsolute at hright ⊢
      rw [hchars, Bool.or_false]
      unfold lead
      cases hleft : left.chars with
      | nil => simpa using hright
      | cons c rest => split <;> simp

/-- What is joined decides on a final slash. -/
theorem endsWithSlash_join (left : Path) (hright : right.chars ≠ []) :
    (left.join right).endsWithSlash = right.endsWithSlash := by
  unfold endsWithSlash
  rw [chars_join]
  split
  · rfl
  · obtain ⟨front, c, hlast⟩ := (List.eq_nil_or_concat right.chars).resolve_left hright
    rw [hlast, List.concat_eq_append, ← List.append_assoc, List.getLast?_concat, List.getLast?_concat]

/-- A text without a slash that is not empty is one step. -/
theorem bareSteps_of_noSlash {text : List Char} (hslash : '/' ∉ text) :
    (ofChars text).bareSteps = [text].filterMap PathStep.ofStretch := by
  rw [bareSteps, stretches, chars_ofChars, List.splitOn_eq_singleton hslash]

theorem plain_of_noSlash {text : List Char} (hslash : '/' ∉ text) :
    (ofChars text).isAbsolute = false ∧ (ofChars text).endsWithSlash = false := by
  unfold isAbsolute endsWithSlash
  rw [chars_ofChars]
  constructor
  · rw [Bool.eq_false_iff]
    intro h
    exact hslash (List.mem_of_head? (eq_of_beq h))
  · rw [Bool.eq_false_iff]
    intro h
    exact hslash (List.mem_of_getLast? (eq_of_beq h))

/-- A path ends in what the path ends in that is joined to it. -/
theorem Ends.join {first : List PathStep} (h : right.Ends first name)
    (hright : right.isAbsolute = false) (left : Path) :
    (left.join right).Ends (left.bareSteps ++ first) name ∧
      (left.join right).isAbsolute = left.isAbsolute := by
  have hne : right.chars ≠ [] := by
    intro hnil
    have hsteps := h.bare
    unfold bareSteps stretches at hsteps
    rw [hnil] at hsteps
    cases first <;> cases hsteps
  refine ⟨⟨?_, ?_⟩, ?_⟩
  · rw [bareSteps_join, hright, if_neg (by decide), h.bare, List.append_assoc]
  · rw [endsWithSlash_join _ hne, h.noSlash]
  · rw [isAbsolute_join, hright, Bool.or_false]

/-- A path with a name put behind it ends in that name. -/
theorem push_ends (p : Path) (h : ProperName name) :
    (p.push name).Ends p.bareSteps name ∧ (p.push name).isAbsolute = p.isAbsolute := by
  obtain ⟨habsolute, hslash⟩ := plain_of_noSlash h.noSlash
  have hsteps := bareSteps_of_noSlash h.noSlash
  have hname : PathStep.ofStretch name.toList = some (.into name) :=
    PathStep.ofStretch_eq_into_iff.2 ⟨rfl, h.1, h.2.1, h.2.2.1⟩
  have hplain : ofChars name.toList = ⟨name⟩ := congrArg Path.mk String.ofList_toList
  rw [hplain] at habsolute hslash hsteps
  have hends : (⟨name⟩ : Path).Ends [] name := ⟨by rw [hsteps]; simp [hname], hslash⟩
  have hjoined := hends.join habsolute p
  rwa [List.append_nil] at hjoined

/-- The components of a path that ends in a name end in it. -/
theorem getLast?_components {first : List PathStep} (h : p.Ends first name) :
    p.components.getLast? = some (.name name.toList) := by
  obtain ⟨front, blanks, hstretches, hblanks, _, hsilent⟩ := stretches_of_bareSteps h.bare
  have hname : PathStep.ofStretch name.toList = some (.into name) := by
    have hmem : PathStep.into name ∈ p.bareSteps := by simp [h.bare]
    obtain ⟨stretch, _, hstretch⟩ := List.mem_filterMap.1 hmem
    rwa [(PathStep.ofStretch_eq_into_iff.1 hstretch).1] at hstretch
  obtain ⟨_, hnil, hdot, hdots⟩ := PathStep.ofStretch_eq_into_iff.1 hname
  have hcomponent : Component.ofStretch name.toList = some (.name name.toList) := by
    unfold Component.ofStretch
    split <;> simp_all
  have hblank : blanks.filterMap Component.ofStretch = [] := by
    rw [List.filterMap_eq_nil_iff]
    intro blank hmem
    rw [hblanks blank hmem]
    rfl
  have hinner : p.stretches.filterMap Component.ofStretch =
      front.filterMap Component.ofStretch ++ [.name name.toList] := by
    rw [hstretches, List.filterMap_append, List.filterMap_cons, hcomponent, hblank]
  unfold components
  rw [hinner]
  split
  · rw [← List.cons_append, List.getLast?_concat]
  · split
    · rw [← List.cons_append, List.getLast?_concat]
    · rw [List.getLast?_concat]

/-- Paths that end in different names have different components. -/
theorem sameComponents_eq_false {first second : List PathStep} {other : String}
    (hp : p.Ends first name) (hq : q.Ends second other) (hne : name ≠ other) :
    p.sameComponents q = false := by
  rw [Bool.eq_false_iff]
  intro hsame
  have hcomponents : p.components = q.components := eq_of_beq hsame
  have hlast := getLast?_components hp
  rw [hcomponents, getLast?_components hq] at hlast
  simp only [Option.some.injEq, Component.name.injEq, String.toList_inj] at hlast
  exact hne hlast.symm

/-! ### Making absolute -/

/-- The steps of a path but those that stay in place. -/
def solidSteps (p : Path) : List PathStep := p.bareSteps.filter (· ≠ .stay)

/-- The steps of a component. -/
def Component.steps : Component → List PathStep
  | .root => []
  | .current => [.stay]
  | .parent => [.up]
  | .name text => [.into (String.ofList text)]

/-- A component that can stand between others. -/
structure Component.IsInner (c : Component) : Prop where
  noSlash : '/' ∉ c.text
  nonempty : c.text ≠ []
  solid : c ≠ .current
  steps : (ofChars c.text).bareSteps = c.steps

theorem Component.isInner_of_ofStretch {stretch : List Char} {c : Component}
    (hslash : '/' ∉ stretch) (h : ofStretch stretch = some c) :
    c.IsInner ∧ (PathStep.ofStretch stretch).toList = c.steps := by
  unfold ofStretch at h
  split at h
  · cases h
  · cases h
  · cases h
    exact ⟨⟨by decide, by decide, by decide, by decide⟩, rfl⟩
  · rename_i hnil hdot hdots
    cases h
    have hname : PathStep.ofStretch stretch = some (.into (String.ofList stretch)) := by
      rw [PathStep.ofStretch_eq_into_iff]
      simpa using ⟨hnil, hdot, hdots⟩
    refine ⟨⟨hslash, hnil, by simp, ?_⟩, by rw [hname]; rfl⟩
    show (ofChars stretch).bareSteps = _
    rw [bareSteps_of_noSlash hslash]
    simp [hname, Component.steps]

/-- The components between the slashes of a path. -/
def inner (p : Path) : List Component := p.stretches.filterMap Component.ofStretch

theorem isInner_of_mem_inner {c : Component} (h : c ∈ p.inner) : c.IsInner := by
  obtain ⟨stretch, hmem, hstretch⟩ := List.mem_filterMap.1 h
  exact (Component.isInner_of_ofStretch (not_mem_of_mem_splitOn hmem) hstretch).1

/-- The components of a path take its steps but those that stay in place. -/
theorem flatMap_steps_inner (p : Path) : p.inner.flatMap Component.steps = p.solidSteps := by
  unfold inner solidSteps bareSteps
  have hslash : ∀ stretch ∈ p.stretches, '/' ∉ stretch := fun _ h => not_mem_of_mem_splitOn h
  generalize p.stretches = parts at hslash
  induction parts with
  | nil => rfl
  | cons stretch rest ih =>
      have hrest := ih fun s hs => hslash s (List.mem_cons_of_mem _ hs)
      cases hcomponent : Component.ofStretch stretch with
      | none =>
          have hsilent : isSilent stretch = true := by simp [isSilent, hcomponent]
          rcases isSilent_iff.1 hsilent with rfl | rfl
          · exact hrest
          · exact hrest
      | some c =>
          obtain ⟨_, hsteps⟩ :=
            Component.isInner_of_ofStretch (hslash stretch List.mem_cons_self) hcomponent
          have hstay : PathStep.ofStretch stretch ≠ some .stay := by
            intro h
            rw [h] at hsteps
            cases c <;> cases hsteps
            unfold Component.ofStretch at hcomponent
            split at hcomponent <;> cases hcomponent
          rw [List.filterMap_cons_some hcomponent, List.flatMap_cons, hrest, ← hsteps]
          cases hstep : PathStep.ofStretch stretch with
          | none => rw [List.filterMap_cons_none hstep]; rfl
          | some step =>
              rw [List.filterMap_cons_some hstep, List.filter_cons_of_pos]
              · rfl
              · rw [hstep] at hstay
                simpa using hstay

/-- Appending components appends their steps. -/
theorem extend_inner (p : Path) {cs : List Component} (hcs : ∀ c ∈ cs, c.IsInner) :
    (p.extend cs).bareSteps = p.bareSteps ++ cs.flatMap Component.steps ∧
      (p.extend cs).isAbsolute = p.isAbsolute ∧
      (cs ≠ [] → (p.extend cs).endsWithSlash = false) := by
  induction cs generalizing p with
  | nil => simp [extend]
  | cons c rest ih =>
      obtain ⟨hslash, hne, _, hsteps⟩ := hcs c List.mem_cons_self
      obtain ⟨habsolute, hlast⟩ := plain_of_noSlash hslash
      have hjoin : (p.join (ofChars c.text)).bareSteps = p.bareSteps ++ c.steps := by
        rw [bareSteps_join, habsolute, if_neg (by decide), hsteps]
      obtain ⟨hrest, habsolute', hlast'⟩ :=
        ih (p.join (ofChars c.text)) fun d hd => hcs d (List.mem_cons_of_mem _ hd)
      refine ⟨?_, ?_, fun _ => ?_⟩
      · rw [List.flatMap_cons, ← List.append_assoc, ← hjoin]
        exact hrest
      · rw [isAbsolute_join, habsolute, Bool.or_false] at habsolute'
        exact habsolute'
      · cases rest with
        | nil =>
            show (p.join (ofChars c.text)).endsWithSlash = false
            rw [endsWithSlash_join _ (by rwa [chars_ofChars]), hlast]
        | cons d more => exact hlast' (by simp)

/-- **The steps of a path made absolute** are those of the path but for the ones that stay in place,
behind those of the directory that a relative path begins in. -/
theorem absoluteFrom_steps (p here : Path) :
    (p.absoluteFrom here).bareSteps =
        (if p.isAbsolute then [] else here.bareSteps) ++ p.solidSteps ∧
      (p.absoluteFrom here).isAbsolute = (p.isAbsolute || here.isAbsolute) ∧
      (p.endsWithSlash = false → p.inner ≠ [] → (p.absoluteFrom here).endsWithSlash = false) := by
  have hinner : ∀ c ∈ p.inner, c.IsInner := fun _ => isInner_of_mem_inner
  obtain ⟨base, heq, hbase⟩ : ∃ base : Path, p.absoluteFrom here =
      (if p.endsWithSlash then base.join ⟨""⟩ else base) ∧ ∃ start : Path,
        base = start.extend p.inner ∧
        start.bareSteps = (if p.isAbsolute then [] else here.bareSteps) ∧
        start.isAbsolute = (p.isAbsolute || here.isAbsolute) := by
    refine ⟨_, rfl, ?_⟩
    unfold components
    cases habsolute : p.isAbsolute with
    | true =>
        simp only [if_true]
        split
        · split
          · exact ⟨⟨"/"⟩, rfl, by decide, rfl⟩
          · exact ⟨⟨"//"⟩, rfl, by decide, rfl⟩
        · exact ⟨⟨"/"⟩, rfl, by decide, rfl⟩
    | false =>
        refine ⟨here, ?_, by simp, by simp⟩
        simp only [Bool.false_eq_true, if_false]
        split
        · rename_i rest hcomponents
          split at hcomponents
          · cases hcomponents
            rfl
          · -- No component between the slashes is one that stays in place.
            have hmem : Component.current ∈ p.inner := by
              unfold inner
              rw [hcomponents]
              exact List.mem_cons_self
            exact ((hinner _ hmem).solid rfl).elim
        · rename_i hcomponents
          split
          · rename_i hhead
            rw [if_pos hhead] at hcomponents
            exact (hcomponents _ rfl).elim
          · rfl
  obtain ⟨start, rfl, hsteps, habsolute⟩ := hbase
  obtain ⟨hextended, habsolute', hlast⟩ := extend_inner start hinner
  rw [flatMap_steps_inner, hsteps] at hextended
  rw [habsolute] at habsolute'
  have hempty : (⟨""⟩ : Path).isAbsolute = false ∧ (⟨""⟩ : Path).bareSteps = [] := by decide
  rw [heq]
  split
  · rename_i hslash
    refine ⟨?_, ?_, fun h => absurd (h.symm.trans hslash) (by decide)⟩
    · rw [bareSteps_join, hempty.1, hempty.2, if_neg (by decide), List.append_nil, hextended]
    · rw [isAbsolute_join, hempty.1, Bool.or_false, habsolute']
  · exact ⟨hextended, habsolute', fun _ => hlast⟩

theorem absoluteFrom_spec (p here : Path) (hslash : p.endsWithSlash = false) :
    (p.absoluteFrom here).bareSteps =
        (if p.isAbsolute then [] else here.bareSteps) ++ p.solidSteps ∧
      (p.absoluteFrom here).isAbsolute = (p.isAbsolute || here.isAbsolute) ∧
      (p.inner ≠ [] → (p.absoluteFrom here).endsWithSlash = false) := by
  obtain ⟨hsteps, habsolute, hlast⟩ := absoluteFrom_steps p here
  exact ⟨hsteps, habsolute, hlast hslash⟩

/-- A path that ends in a name still ends in it when it is made absolute. -/
theorem Ends.absoluteFrom {first : List PathStep} (h : p.Ends first name) (here : Path) :
    (p.absoluteFrom here).Ends
      ((if p.isAbsolute then [] else here.bareSteps) ++ first.filter (· ≠ .stay)) name := by
  obtain ⟨hsteps, _, hslash⟩ := absoluteFrom_spec p here h.noSlash
  have hsolid : p.solidSteps = first.filter (· ≠ .stay) ++ [.into name] := by
    unfold solidSteps
    rw [h.bare, List.filter_append]
    rfl
  refine ⟨by rw [hsteps, hsolid, List.append_assoc], hslash fun hinner => ?_⟩
  have := flatMap_steps_inner p
  rw [hinner, hsolid] at this
  simp at this

/-- Names put behind a path are its next steps. -/
theorem below_spec (base : Path) {names : Location} (hnames : ∀ name ∈ names, ProperName name) :
    (Tree.below base names).bareSteps = base.bareSteps ++ names.map .into ∧
      (Tree.below base names).isAbsolute = base.isAbsolute := by
  induction names generalizing base with
  | nil => simp [Tree.below]
  | cons name rest ih =>
      obtain ⟨hends, habsolute⟩ := push_ends base (hnames name List.mem_cons_self)
      obtain ⟨hsteps, habsolute'⟩ := ih (base.push name) fun n hn => hnames n (List.mem_cons_of_mem _ hn)
      rw [hends.bare, List.append_assoc] at hsteps
      exact ⟨hsteps, habsolute'.trans habsolute⟩

/-- The last name put behind a path is what the path ends in. -/
theorem below_ends (base : Path) (front : Location) (h : ProperName name) :
    (Tree.below base (front ++ [name])).Ends (Tree.below base front).bareSteps name := by
  unfold Tree.below
  rw [List.foldl_append]
  exact (push_ends _ h).1

theorem isAbsolute_pathOf (place : Location) : (FileSystem.pathOf place).isAbsolute = true := by
  unfold FileSystem.pathOf isAbsolute chars
  split
  · decide
  · simp

end Path

namespace FileSystem

variable {fs : FileSystem} {links : Nat} {here place : Location}

/-- **A walk does not miss the steps that stay in place.** -/
theorem Trail.shed {front steps : List PathStep} (h : Trail fs links here (front ++ steps) place) :
    ∃ links', links' ≤ links ∧
      Trail fs links' here (front ++ steps.filter (· ≠ .stay)) place := by
  induction steps generalizing front links with
  | nil => exact ⟨links, Nat.le_refl _, h⟩
  | cons step rest ih =>
      by_cases hstay : step = .stay
      · subst hstay
        obtain ⟨m, n, middle, hsum, hleft, hright⟩ := h.split (by simp)
        have hcut : Trail fs (m + n) here (front ++ rest) place := by
          cases hright with
          | stay henters tail => exact hleft.append tail henters
        rw [← hsum] at hcut
        rw [List.filter_cons_of_neg (by simp)]
        exact ih hcut
      · rw [List.append_cons] at h
        rw [List.filter_cons_of_pos (by simpa using hstay), List.append_cons]
        exact ih h

end FileSystem

namespace FileOp

/-- A path is made absolute from the path of the current directory, which must be there if the path
is not absolute already. -/
theorem absolute_eq_ok {p q : Path} {cwd : Location} {fs fs' : FileSystem}
    (h : (absolute p).result cwd fs = (.ok q, fs')) :
    fs' = fs ∧ q = p.absoluteFrom (FileSystem.pathOf cwd) ∧
      (p.isAbsolute = true ∨ fs.HoldsDirectory cwd) := by
  unfold absolute at h
  split at h
  · cases h
  · split at h
    · rename_i habsolute
      cases h
      refine ⟨rfl, ?_, .inl habsolute⟩
      unfold Path.absoluteFrom
      simp only [habsolute, if_true]
    · obtain ⟨here, middle, hlook, h⟩ := result_bind_eq_ok_iff.1 h
      rw [result_look] at hlook
      unfold FileSystem.currentDirectory at hlook
      split at hlook
      · rename_i hnode
        cases hlook
        cases h
        exact ⟨rfl, rfl, .inr ⟨_, _, hnode⟩⟩
      · cases hlook

end FileOp

end Bootstrap
