import Bootstrap.Proofs.Archive.Name
import Bootstrap.Proofs.FileSystem.Sound

/-!
# Names under any tree

The path of a tree may have more than one component, steps that stay in place and steps that
go up.  A name that fits a header is stored tidily: without the steps that stay, with one slash
between two parts, and with a slash at the end of the tree's own name.  A name that does not
fit, or that goes up, is stored as the text that it is.

* `Tree.storedName` — the bytes under which something in a tree is stored;
* `Tar.nameField_nameIn_iff` — when a name fits a header, and what the header holds then;
* `Tar.Member.listedName_of_encode` — **what can be stored is found under its stored name**.
-/

namespace Bootstrap

open FileSystem (bind_eq_ok_iff)

namespace Path

variable {p tree : Path} {names : Location}

theorem inner_join (left right : Path) :
    (left.join right).inner = (if right.isAbsolute then [] else left.inner) ++ right.inner :=
  filterMap_stretches_join rfl left right

/-- The stretches of the names on a way down. -/
theorem stretches_intercalate (hnames : ∀ name ∈ names, ProperName name) :
    (⟨String.intercalate "/" names⟩ : Path).stretches =
      if names = [] then [[]] else names.map String.toList := by
  have hslash : ∀ part ∈ names.map String.toList, '/' ∉ part := by
    intro part hpart
    obtain ⟨n, hn, rfl⟩ := List.mem_map.1 hpart
    exact (hnames n hn).noSlash
  split
  · rename_i hnil
    rw [hnil]
    decide
  · rename_i hne
    unfold stretches chars
    rw [String.toList_intercalate]
    exact List.splitOn_intercalate _ hslash (by simpa using hne)

/-- The names on a way down as a path. -/
theorem inner_intercalate (hnames : ∀ name ∈ names, ProperName name) :
    (⟨String.intercalate "/" names⟩ : Path).inner =
      names.map fun name => .name name.toList := by
  have hcomponent : ∀ {name : String}, ProperName name →
      Component.ofStretch name.toList = some (.name name.toList) := by
    rintro name ⟨hnil, hdot, hdots, _⟩
    unfold Component.ofStretch
    split <;> simp_all
  have hall : (names.map String.toList).filterMap Component.ofStretch =
      names.map fun name => .name name.toList := by
    induction names with
    | nil => rfl
    | cons name rest ih =>
        rw [List.map_cons, List.filterMap_cons_some (hcomponent (hnames name List.mem_cons_self)),
          ih fun n hn => hnames n (List.mem_cons_of_mem _ hn), List.map_cons]
  unfold inner
  rw [stretches_intercalate hnames]
  split
  · rename_i hnil
    rw [hnil]
    rfl
  · exact hall

theorem bareSteps_intercalate (hnames : ∀ name ∈ names, ProperName name) :
    (⟨String.intercalate "/" names⟩ : Path).bareSteps = names.map .into := by
  unfold bareSteps
  rw [stretches_intercalate hnames]
  split
  · rename_i hnil
    rw [hnil]
    rfl
  · exact filterMap_ofStretch_names hnames

/-- A path that is one name. -/
theorem inner_of_proper (h : ProperName p.text) : p.inner = [.name p.chars] := by
  have hinner := inner_intercalate (List.forall_mem_singleton.2 h)
  rwa [String.intercalate_singleton] at hinner

theorem bareSteps_of_proper (h : ProperName p.text) : p.bareSteps = [.into p.text] := by
  have hsteps := bareSteps_intercalate (List.forall_mem_singleton.2 h)
  rwa [String.intercalate_singleton] at hsteps

theorem isAbsolute_intercalate (hnames : ∀ name ∈ names, ProperName name) :
    (⟨String.intercalate "/" names⟩ : Path).isAbsolute = false := by
  cases names with
  | nil => decide
  | cons name rest =>
      rw [Bool.eq_false_iff]
      intro habsolute
      have hname := hnames name List.mem_cons_self
      obtain ⟨c, text, htext⟩ := List.exists_cons_of_ne_nil hname.1
      unfold isAbsolute chars at habsolute
      rw [String.toList_intercalate, List.map_cons,
        show ("/" : String).toList = ['/'] from rfl, Tree.intercalate_cons_eq, htext] at habsolute
      have hc := (hname.2.2.2 c (by simp [htext])).1
      simp at habsolute
      exact hc habsolute

theorem mem_components_of_mem_inner {c : Component} (h : c ∈ p.inner) : c ∈ p.components := by
  unfold components
  split
  · exact List.mem_cons_of_mem _ h
  · split
    · exact List.mem_cons_of_mem _ h
    · exact h

/-- Every character of a path but a slash is in a stretch. -/
theorem exists_stretch_of_mem {c d : Char} {text : List Char} (hd : d ∈ text) :
    d = c ∨ ∃ stretch ∈ text.splitOn c, d ∈ stretch := by
  induction text with
  | nil => cases hd
  | cons x rest ih =>
      rw [List.splitOn_cons_eq_if_modifyHead]
      split
      · rename_i hx
        rcases List.mem_cons.1 hd with rfl | hd
        · exact .inl (eq_of_beq hx)
        · rcases ih hd with h | ⟨stretch, hstretch, h⟩
          · exact .inl h
          · exact .inr ⟨stretch, List.mem_cons_of_mem _ hstretch, h⟩
      · cases hrest : rest.splitOn c with
        | nil => exact (List.splitOn_ne_nil c rest hrest).elim
        | cons head tail =>
            rw [List.modifyHead_cons]
            rcases List.mem_cons.1 hd with rfl | hd
            · exact .inr ⟨_, List.mem_cons_self, List.mem_cons_self⟩
            · rcases ih hd with h | ⟨stretch, hstretch, h⟩
              · exact .inl h
              · rw [hrest] at hstretch
                rcases List.mem_cons.1 hstretch with rfl | hstretch
                · exact .inr ⟨_, List.mem_cons_self, List.mem_cons_of_mem _ h⟩
                · exact .inr ⟨stretch, List.mem_cons_of_mem _ hstretch, h⟩

/-- A path that asks for names of entries only can be given to a call. -/
theorem ne_null_of_proper (hproper : ∀ name, .into name ∈ p.bareSteps → ProperName name) {c : Char}
    (hc : c ∈ p.chars) : c.toNat ≠ 0 := by
  rcases exists_stretch_of_mem (c := '/') hc with rfl | ⟨stretch, hstretch, hmem⟩
  · decide
  · cases hstep : PathStep.ofStretch stretch with
    | none =>
        rw [PathStep.ofStretch_eq_none_iff] at hstep
        rw [hstep] at hmem
        cases hmem
    | some step =>
        cases step with
        | into name =>
            obtain ⟨rfl, _⟩ := PathStep.ofStretch_eq_into_iff.1 hstep
            have hname := hproper name (List.mem_filterMap.2 ⟨_, hstretch, hstep⟩)
            exact (hname.2.2.2 c hmem).2
        | _ =>
            unfold PathStep.ofStretch at hstep
            split at hstep <;> cases hstep
            all_goals
              simp only [List.mem_cons, List.not_mem_nil, or_false, or_self] at hmem
              rw [hmem]
              decide

end Path

namespace Tree

/-- The parts of the name of something in a tree. -/
def nameParts (tree : Path) (names : Location) : List (List Char) :=
  tree.inner.map Path.Component.text ++ names.map String.toList

/-- The tidy name of something in a tree: its parts with slashes between them, and one behind the
tree's own name.  A tree without parts is the directory in which it is looked for. -/
def tidyName (tree : Path) (names : Location) : Bytes :=
  let parts := if nameParts tree names = [] then [['.']] else nameParts tree names
  Text.Utf8.encode (String.ofList (List.intercalate ['/'] parts)) ++ if names = [] then [47] else []

/-- **The bytes under which something in a tree is stored**: its tidy name, or the joined text as it is
when the tidy name does not fit a header or goes up. -/
def storedName (tree : Path) (names : Location) : Bytes :=
  if (tidyName tree names).length ≤ Tar.nameSize ∧ .parent ∉ tree.inner then tidyName tree names
  else Text.Utf8.encode (nameIn tree names).text

variable {tree : Path} {names : Location}

theorem inner_nameIn (hnames : ∀ name ∈ names, ProperName name) :
    (nameIn tree names).inner = tree.inner ++ names.map fun name => .name name.toList := by
  unfold nameIn Path.push
  rw [Path.inner_join, Path.isAbsolute_intercalate hnames, Path.inner_intercalate hnames]
  simp

theorem isAbsolute_nameIn (hnames : ∀ name ∈ names, ProperName name) :
    (nameIn tree names).isAbsolute = tree.isAbsolute := by
  unfold nameIn Path.push
  rw [Path.isAbsolute_join, Path.isAbsolute_intercalate hnames, Bool.or_false]

/-- The texts of the components of a name are its parts. -/
theorem map_text_inner_nameIn (hnames : ∀ name ∈ names, ProperName name) :
    (nameIn tree names).inner.map Path.Component.text = nameParts tree names := by
  rw [inner_nameIn hnames, List.map_append, List.map_map]
  rfl

theorem chars_nameIn_nil (tree : Path) : (nameIn tree []).chars = tree.lead := by
  unfold nameIn Path.push
  rw [Path.chars_join]
  exact List.append_nil _

/-- What lies in a tree under one name is stored under the joined text, whether it fits or not. -/
theorem storedName_of_proper (htree : ProperName tree.text)
    (hnames : ∀ name ∈ names, ProperName name) :
    storedName tree names = Text.Utf8.encode (nameIn tree names).text := by
  have hslash : String.utf8EncodeChar '/' = [47] := by decide
  have hparts : nameParts tree names = tree.chars :: names.map String.toList := by
    unfold nameParts
    rw [Path.inner_of_proper htree]
    rfl
  have htidy : tidyName tree names = Text.Utf8.encode (nameIn tree names).text := by
    unfold tidyName Text.Utf8.encode
    rw [show (nameIn tree names).text.toList = (nameIn tree names).chars from rfl,
      chars_nameIn htree hnames, hparts]
    cases names with
    | nil => simp [hslash]
    | cons name rest => simp [List.intercalate_cons_cons]
  unfold storedName
  rw [htidy, ite_self]

end Tree

namespace Tar

variable {stored result : Bytes} {cutOff alone : Bool} {texts : List (List Char)}

/-- The bytes of parts with slashes between them. -/
theorem encode_intercalate (first : List Char) (rest : List (List Char)) :
    Text.Utf8.encode (String.ofList (List.intercalate ['/'] (first :: rest))) =
      Text.Utf8.encode (String.ofList first) ++
        rest.flatMap fun text => 47 :: Text.Utf8.encode (String.ofList text) := by
  have hslash : String.utf8EncodeChar '/' = [47] := by decide
  unfold Text.Utf8.encode
  simp only [String.toList_ofList]
  rw [Tree.intercalate_cons_eq, List.flatMap_append]
  congr 1
  induction rest with
  | nil => rfl
  | cons text rest ih => simp [ih, hslash]

/-- Names are stored behind what is stored already exactly if they fit. -/
theorem storeComponents_names_iff (hstored : stored ≠ []) (hfits : stored.length ≤ nameSize) :
    storeComponents cutOff alone stored (texts.map .name) = .ok result ↔
      result = stored ++ (texts.flatMap fun text => 47 :: Text.Utf8.encode (String.ofList text)) ∧
        result.length ≤ nameSize := by
  induction texts generalizing stored with
  | nil =>
      constructor
      · intro h
        cases h
        exact ⟨by simp, hfits⟩
      · rintro ⟨rfl, _⟩
        simp [storeComponents]
  | cons text rest ih =>
      rw [List.map_cons, storeComponents, bind_eq_ok_iff]
      simp only [extendComponent_eq_ok_iff, if_neg hstored]
      rw [List.flatMap_cons]
      constructor
      · rintro ⟨next, ⟨rfl, hnext⟩, h⟩
        obtain ⟨rfl, hlength⟩ := (ih (by simp) hnext).1 h
        exact ⟨by simp, hlength⟩
      · rintro ⟨rfl, hlength⟩
        have hnext : (stored ++ 47 :: Text.Utf8.encode (String.ofList text)).length ≤ nameSize := by
          simp only [List.length_append, List.length_cons] at hlength ⊢
          omega
        exact ⟨_, ⟨rfl, hnext⟩, (ih (by simp) hnext).2 ⟨by simp, hlength⟩⟩

/-- What goes up is not stored, unless it may be cut off. -/
theorem not_mem_of_storeComponents {components : List Path.Component}
    (h : storeComponents false alone stored components = .ok result) : .parent ∉ components := by
  induction components generalizing stored with
  | nil => simp
  | cons c rest ih =>
      cases c with
      | root => cases h
      | parent => cases h
      | current =>
          rw [storeComponents] at h
          have hrest : .parent ∉ rest := by
            split at h
            · obtain ⟨_, _, h⟩ := bind_eq_ok_iff.1 h
              exact ih h
            · exact ih h
          simpa using hrest
      | name text =>
          obtain ⟨_, _, h⟩ := bind_eq_ok_iff.1 h
          simpa using ih h

/-- The name of a path from the root is refused. -/
theorem nameField_of_isAbsolute (cutOff : Bool) {p : Path} (h : p.isAbsolute = true) :
    ∃ e, nameField cutOff p = .error e := by
  unfold nameField Path.components
  rw [h]
  exact ⟨_, rfl⟩

/-- The parts of a path that never goes up are names. -/
theorem exists_texts_of_inner {p : Path} (h : .parent ∉ p.inner) :
    p.inner = (p.inner.map Path.Component.text).map .name := by
  rw [List.map_map]
  refine (List.map_id _).symm.trans (List.map_congr_left fun c hc => ?_)
  obtain ⟨stretch, _, hstretch⟩ := List.mem_filterMap.1 hc
  cases c with
  | name text => rfl
  | parent => exact (h hc).elim
  | _ =>
      unfold Path.Component.ofStretch at hstretch
      split at hstretch <;> cases hstretch

/-- A relative path that is not empty has a component. -/
theorem components_of_relative {p : Path} (habsolute : p.isAbsolute = false) (hne : p.chars ≠ []) :
    (p.inner = [] ∧ p.components = [.current]) ∨
      (p.inner ≠ [] ∧ (p.components = p.inner ∨ p.components = .current :: p.inner)) := by
  unfold Path.components
  rw [habsolute]
  simp only [Bool.false_eq_true, if_false]
  by_cases hinner : p.inner = []
  · left
    refine ⟨hinner, ?_⟩
    obtain ⟨c, rest, hchars⟩ := List.exists_cons_of_ne_nil hne
    have hc : c ≠ '/' := by
      rintro rfl
      unfold Path.isAbsolute at habsolute
      rw [hchars] at habsolute
      simp at habsolute
    obtain ⟨head, tail, hstretches⟩ := List.exists_cons_of_ne_nil (List.splitOn_ne_nil '/' rest)
    have hfirst : p.stretches = (c :: head) :: tail := by
      rw [Path.stretches, hchars, List.splitOn_cons_eq_if_modifyHead, if_neg (by simpa using hc),
        hstretches]
      rfl
    -- The first stretch is not empty, and it stands for no component between slashes.
    have hsilent : Path.isSilent (c :: head) = true := by
      unfold Path.isSilent
      cases hcomponent : Path.Component.ofStretch (c :: head) with
      | none => rfl
      | some component =>
          unfold Path.inner at hinner
          rw [hfirst, List.filterMap_cons_some hcomponent] at hinner
          cases hinner
    have hdot : c :: head = ['.'] := (Path.isSilent_iff.1 hsilent).resolve_left (by simp)
    unfold Path.inner at hinner
    rw [hinner, hfirst, hdot]
    rfl
  · right
    refine ⟨hinner, ?_⟩
    split
    · exact .inr rfl
    · exact .inl rfl

/-- Whether a component is the only one does not matter to names. -/
theorem storeComponents_alone (alone alone' : Bool) (stored : Bytes) (texts : List (List Char)) :
    storeComponents cutOff alone stored (texts.map .name) =
      storeComponents cutOff alone' stored (texts.map .name) := by
  induction texts generalizing stored with
  | nil => rfl
  | cons text rest ih =>
      rw [List.map_cons, storeComponents, storeComponents]
      cases extendComponent stored (Text.Utf8.encode (String.ofList text)) with
      | error e => rfl
      | ok next => exact ih next

/-- Names are stored with slashes between them exactly if they fit. -/
theorem storeComponents_parts_iff {first : List Char} {rest : List (List Char)} (hne : first ≠ []) :
    storeComponents cutOff alone [] ((first :: rest).map .name) = .ok result ↔
      result = Text.Utf8.encode (String.ofList (List.intercalate ['/'] (first :: rest))) ∧
        result.length ≤ nameSize := by
  have hfirst : Text.Utf8.encode (String.ofList first) ≠ [] := by
    intro hnil
    have hempty : String.ofList first = "" := Text.Utf8.encode_inj.1 (hnil.trans (by decide))
    refine hne ?_
    rw [← String.toList_ofList (l := first), hempty]
    rfl
  rw [encode_intercalate, List.map_cons, storeComponents, bind_eq_ok_iff]
  simp only [extendComponent_eq_ok_iff, if_true]
  constructor
  · rintro ⟨_, ⟨rfl, hfits⟩, h⟩
    exact (storeComponents_names_iff hfirst hfits).1 h
  · rintro ⟨rfl, hlength⟩
    have hfits : (Text.Utf8.encode (String.ofList first)).length ≤ nameSize := by
      rw [List.length_append] at hlength
      omega
    exact ⟨_, ⟨rfl, hfits⟩, (storeComponents_names_iff hfirst hfits).2 ⟨rfl, hlength⟩⟩

/-- The bytes of the components of a path, or of the directory that it begins in. -/
def componentBytes (p : Path) : Bytes :=
  Text.Utf8.encode (String.ofList (List.intercalate ['/']
    (if p.inner.map Path.Component.text = [] then [['.']] else p.inner.map Path.Component.text)))

/-- The components of a path that never goes up are stored exactly if they fit. -/
theorem storeComponents_iff {p : Path} (habsolute : p.isAbsolute = false) (hne : p.chars ≠ [])
    (hparent : .parent ∉ p.inner) :
    storeComponents cutOff (p.components.length == 1) [] p.components = .ok result ↔
      result = componentBytes p ∧ result.length ≤ nameSize := by
  unfold componentBytes
  rcases components_of_relative habsolute hne with ⟨hinner, hcomponents⟩ | ⟨hinner, hcomponents⟩
  · rw [hcomponents, hinner, List.map_nil, if_pos rfl]
    have hdot : Text.Utf8.encode (String.ofList (List.intercalate ['/'] [['.']])) = [46] := by decide
    have hstored : storeComponents cutOff true [] [.current] = .ok [46] := rfl
    rw [hdot, List.length_singleton, beq_self_eq_true, hstored]
    constructor
    · intro h
      cases h
      exact ⟨rfl, by decide⟩
    · rintro ⟨rfl, _⟩
      rfl
  · have hnonempty : ∀ text ∈ p.inner.map Path.Component.text, text ≠ [] := by
      intro text htext
      obtain ⟨c, hc, rfl⟩ := List.mem_map.1 htext
      exact (Path.isInner_of_mem_inner hc).nonempty
    have hall := exists_texts_of_inner hparent
    obtain ⟨first, rest, htexts⟩ := List.exists_cons_of_ne_nil
      (show p.inner.map Path.Component.text ≠ [] by simpa using hinner)
    have hfirst : first ≠ [] := hnonempty first (htexts ▸ List.mem_cons_self)
    rw [htexts] at hall
    have hparts : storeComponents cutOff false [] ((first :: rest).map .name) = .ok result ↔ _ :=
      storeComponents_parts_iff hfirst
    rw [htexts, if_neg (by simp), ← hparts, ← hall]
    -- A step that stays in place at the beginning is left out.
    rcases hcomponents with hcomponents | hcomponents
    · rw [hcomponents, hall, storeComponents_alone _ false]
    · have hlength : (p.components.length == 1) = false := by
        rw [hcomponents]
        simpa using hinner
      rw [hlength, hcomponents, storeComponents, if_neg (by decide)]

/-- The name field of a path that never goes up, if it fits. -/
theorem nameField_iff {p : Path} (habsolute : p.isAbsolute = false) (hne : p.chars ≠ [])
    (hparent : .parent ∉ p.inner) :
    nameField cutOff p = .ok result ↔
      result = componentBytes p ++ (if p.endsWithSlash then [47] else []) ∧
        result.length ≤ nameSize := by
  have hnonempty : (componentBytes p).isEmpty = false := by
    rw [Bool.eq_false_iff]
    intro hempty
    unfold componentBytes at hempty
    have hnil := Text.Utf8.encode_inj.1 ((List.isEmpty_iff.1 hempty).trans (by decide :
      ([] : Bytes) = Text.Utf8.encode ""))
    have hchars := congrArg String.toList hnil
    rw [String.toList_ofList] at hchars
    have hparts : ∀ text ∈ p.inner.map Path.Component.text, text ≠ [] := by
      intro text htext
      obtain ⟨c, hc, rfl⟩ := List.mem_map.1 htext
      exact (Path.isInner_of_mem_inner hc).nonempty
    generalize p.inner.map Path.Component.text = parts at hparts hchars
    cases parts with
    | nil => simp at hchars
    | cons first rest =>
        rw [if_neg (by simp), Tree.intercalate_cons_eq] at hchars
        exact hparts first List.mem_cons_self (List.append_eq_nil_iff.1 hchars).1
  unfold nameField
  rw [bind_eq_ok_iff]
  simp only [storeComponents_iff habsolute hne hparent]
  constructor
  · rintro ⟨stored, ⟨hstored, hlength⟩, h⟩
    rw [hstored, hnonempty, if_neg (by decide)] at h
    rw [hstored] at hlength
    split at h
    · rename_i hslash
      rw [if_pos hslash]
      obtain ⟨hresult, hfits⟩ := extendName_eq_ok_iff.1 h
      exact ⟨hresult, hresult ▸ hfits⟩
    · rename_i hslash
      rw [if_neg hslash, List.append_nil]
      exact ⟨(Except.ok.inj h).symm, Except.ok.inj h ▸ hlength⟩
  · rintro ⟨hresult, hlength⟩
    rw [hresult] at hlength
    refine ⟨componentBytes p, ⟨rfl, ?_⟩, ?_⟩
    · rw [List.length_append] at hlength
      omega
    · rw [hnonempty, if_neg (by decide), hresult]
      split at hlength
      · rename_i hslash
        rw [if_pos hslash, if_pos hslash]
        exact extendName_eq_ok_iff.2 ⟨rfl, hlength⟩
      · rename_i hslash
        rw [if_neg hslash, if_neg hslash, List.append_nil]
        rfl

variable {tree : Path} {names : Location} {m : Member} {blocks : Bytes}

/-- Only the tree's own name ends in a slash. -/
theorem endsWithSlash_nameIn_iff (hnames : ∀ name ∈ names, ProperName name)
    (hne : (Tree.nameIn tree names).chars ≠ []) :
    (Tree.nameIn tree names).endsWithSlash = decide (names = []) := by
  cases names with
  | nil =>
      rw [Tree.chars_nameIn_nil] at hne
      unfold Path.endsWithSlash
      rw [Tree.chars_nameIn_nil]
      obtain ⟨hempty, hlead⟩ | ⟨up, hlead⟩ := Path.lead_cases tree
      · exact (hne hlead).elim
      · rw [hlead, List.getLast?_concat]
        rfl
  | cons name rest =>
      rw [decide_eq_false (by simp)]
      have hright : (⟨String.intercalate "/" (name :: rest)⟩ : Path).chars ≠ [] := by
        intro hnil
        have hinner := Path.inner_intercalate hnames
        unfold Path.inner Path.stretches at hinner
        rw [hnil] at hinner
        cases hinner
      unfold Tree.nameIn Path.push
      rw [Path.endsWithSlash_join _ hright, Bool.eq_false_iff]
      intro hslash
      obtain ⟨front, hfront⟩ := Path.stretches_of_endsWithSlash hslash
      rw [Path.stretches_intercalate hnames, if_neg (by simp)] at hfront
      have hlast : ([] : List Char) ∈ (name :: rest).map String.toList := by
        rw [hfront]
        simp
      obtain ⟨last, hmem, hnil⟩ := List.mem_map.1 hlast
      exact (hnames last hmem).1 hnil

/-- **What a header holds** of a name in a tree that never goes up, if it fits. -/
theorem nameField_nameIn_iff (hnames : ∀ name ∈ names, ProperName name)
    (habsolute : tree.isAbsolute = false) (hne : (Tree.nameIn tree names).chars ≠ [])
    (hparent : .parent ∉ tree.inner) :
    nameField cutOff (Tree.nameIn tree names) = .ok result ↔
      result = Tree.tidyName tree names ∧ result.length ≤ nameSize := by
  have hinner : .parent ∉ (Tree.nameIn tree names).inner := by
    rw [Tree.inner_nameIn hnames]
    simpa using hparent
  rw [nameField_iff (by rwa [Tree.isAbsolute_nameIn hnames]) hne hinner, componentBytes,
    Tree.map_text_inner_nameIn hnames, endsWithSlash_nameIn_iff hnames hne]
  unfold Tree.tidyName
  simp only [decide_eq_true_eq]

/-- A path whose name can be stored is relative and not empty; what does not fit a header is long. -/
theorem nameRecords_cases {p : Path} {records stored : Bytes}
    (h : nameRecords p = .ok (records, stored)) :
    p.isAbsolute = false ∧ p.chars ≠ [] := by
  have hrefused : (∃ e, nameField false p = .error e) →
      nameSize ≤ (Text.Utf8.encode p.text).length ∧
        nameField true (.ofChars (wholePrefix nameSize p.chars)) = .ok stored := by
    rintro ⟨e, herror⟩
    rcases nameRecords_eq_ok h with ⟨hshort, _⟩ | ⟨_, hlong, hcut, _⟩
    · cases herror.symm.trans hshort
    · exact ⟨hlong, hcut⟩
  constructor
  · rw [Bool.eq_false_iff]
    intro habsolute
    obtain ⟨_, hcut⟩ := hrefused (nameField_of_isAbsolute false habsolute)
    obtain ⟨rest, hchars⟩ : ∃ rest, p.chars = '/' :: rest := by
      unfold Path.isAbsolute at habsolute
      cases hchars : p.chars with
      | nil => rw [hchars] at habsolute; cases habsolute
      | cons c rest =>
          rw [hchars] at habsolute
          exact ⟨rest, by rw [show c = '/' by simpa using habsolute]⟩
    have hslash : ('/' : Char).utf8Size ≤ nameSize := by decide
    have hrooted : (Path.ofChars (wholePrefix nameSize p.chars)).isAbsolute = true := by
      unfold Path.isAbsolute
      rw [Path.chars_ofChars, hchars, wholePrefix, if_pos hslash]
      rfl
    obtain ⟨e, herror⟩ := nameField_of_isAbsolute true hrooted
    rw [hcut] at herror
    cases herror
  · intro hempty
    have htext : p.text = "" := String.toList_inj.1 hempty
    obtain ⟨hlong, _⟩ := hrefused (by
      obtain ⟨text⟩ := p
      subst htext
      exact ⟨_, rfl⟩)
    rw [htext] at hlong
    exact absurd hlong (by decide)

/-- No name of something that stands in a tree has a zero in it. -/
theorem untilZero_of_proper {p : Path} {text : List Char}
    (hproper : ∀ name, .into name ∈ p.bareSteps → ProperName name)
    (htext : ∀ c ∈ text, c = '/' ∨ c = '.' ∨ c ∈ p.chars) :
    untilZero (Text.Utf8.encode (String.ofList text)) = Text.Utf8.encode (String.ofList text) := by
  refine untilZero_of_ne fun b hb => Text.Utf8.ne_zero_of_mem_encode (fun c hc => ?_) hb
  rw [String.toList_ofList] at hc
  rcases htext c hc with rfl | rfl | hc
  · decide
  · decide
  · exact Path.ne_null_of_proper hproper hc

/-- The characters of a tidy name are those of the path, slashes and dots. -/
theorem mem_parts {p : Path} {text : List Char} (htext : text ∈ p.inner.map Path.Component.text)
    {c : Char} (hc : c ∈ text) : c = '.' ∨ c ∈ p.chars := by
  obtain ⟨component, hcomponent, rfl⟩ := List.mem_map.1 htext
  obtain ⟨stretch, hmem, hstretch⟩ := List.mem_filterMap.1 hcomponent
  unfold Path.Component.ofStretch at hstretch
  split at hstretch <;> cases hstretch
  · simp only [Path.Component.text, List.mem_cons, List.not_mem_nil, or_false, or_self] at hc
    exact .inl hc
  · exact .inr (Path.mem_of_mem_splitOn hmem hc)

theorem mem_intercalate {parts : List (List Char)} {c : Char}
    (hc : c ∈ List.intercalate ['/'] parts) : c = '/' ∨ ∃ part ∈ parts, c ∈ part := by
  cases parts with
  | nil => simp at hc
  | cons first rest =>
      rw [Tree.intercalate_cons_eq, List.mem_append, List.mem_flatMap] at hc
      rcases hc with hc | ⟨part, hpart, hc⟩
      · exact .inr ⟨first, List.mem_cons_self, hc⟩
      · rcases List.mem_cons.1 hc with rfl | hc
        · exact .inl rfl
        · exact .inr ⟨part, List.mem_cons_of_mem _ hpart, hc⟩

theorem untilZero_tidyName (hnames : ∀ name ∈ names, ProperName name)
    (hproper : ∀ name, .into name ∈ (Tree.nameIn tree names).bareSteps → ProperName name) :
    untilZero (Tree.tidyName tree names) = Tree.tidyName tree names := by
  have hslash : Text.Utf8.encode (String.ofList ['/']) = [47] := by decide
  have htext : ∃ text : List Char, Tree.tidyName tree names = Text.Utf8.encode (String.ofList text) ∧
      ∀ c ∈ text, c = '/' ∨ c = '.' ∨ c ∈ (Tree.nameIn tree names).chars := by
    refine ⟨List.intercalate ['/'] (if Tree.nameParts tree names = [] then [['.']]
      else Tree.nameParts tree names) ++ (if names = [] then ['/'] else []), ?_, fun c hc => ?_⟩
    · have hend : Text.Utf8.encode (String.ofList (if names = [] then ['/'] else [])) =
          if names = [] then [47] else [] := by
        split
        · exact hslash
        · rfl
      rw [String.ofList_append, Text.Utf8.encode_append, hend]
      rfl
    · rcases List.mem_append.1 hc with hc | hc
      · rcases mem_intercalate hc with rfl | ⟨part, hpart, hc⟩
        · exact .inl rfl
        · split at hpart
          · obtain rfl := List.mem_singleton.1 hpart
            exact .inr (.inl (List.mem_singleton.1 hc))
          · rw [← Tree.map_text_inner_nameIn hnames] at hpart
            exact .inr (mem_parts hpart hc)
      · split at hc
        · exact .inl (List.mem_singleton.1 hc)
        · cases hc
  obtain ⟨text, heq, hchars⟩ := htext
  rw [heq]
  exact untilZero_of_proper hproper hchars

/-- **What can be stored is found under its stored name.** -/
theorem Member.listedName_of_encode (hencode : m.encode = .ok blocks)
    (hname : m.name = Tree.nameIn tree names) (hnames : ∀ name ∈ names, ProperName name)
    (htree : ∀ name, .into name ∈ tree.bareSteps → ProperName name) :
    m.listedName = Tree.storedName tree names := by
  have hproper : ∀ name, .into name ∈ (Tree.nameIn tree names).bareSteps → ProperName name := by
    intro name hmem
    unfold Tree.nameIn Path.push at hmem
    rw [Path.bareSteps_join, List.mem_append] at hmem
    rcases hmem with hmem | hmem
    · split at hmem
      · cases hmem
      · exact htree name hmem
    · rw [Path.bareSteps_intercalate hnames] at hmem
      obtain ⟨n, hn, heq⟩ := List.mem_map.1 hmem
      cases heq
      exact hnames name hn
  unfold Member.encode at hencode
  obtain ⟨⟨records, stored⟩, hrecords, _⟩ := bind_eq_ok_iff.1 hencode
  rw [hname] at hrecords
  obtain ⟨habsolute, hne⟩ := nameRecords_cases hrecords
  rw [Tree.isAbsolute_nameIn hnames] at habsolute
  unfold listedName Tree.storedName
  rw [hname]
  split
  · rename_i stored hstored
    have hparent : .parent ∉ tree.inner := by
      obtain ⟨_, hcomponents, _⟩ := bind_eq_ok_iff.1 hstored
      have hinner := not_mem_of_storeComponents hcomponents
      intro hmem
      refine hinner (Path.mem_components_of_mem_inner ?_)
      rw [Tree.inner_nameIn hnames]
      exact List.mem_append_left _ hmem
    obtain ⟨htidy, hfits⟩ := (nameField_nameIn_iff hnames habsolute hne hparent).1 hstored
    rw [htidy] at hfits
    rw [if_pos ⟨hfits, hparent⟩, htidy, untilZero_tidyName hnames hproper]
  · rename_i e herror
    rw [if_neg]
    · have hchars : ∀ c ∈ (Tree.nameIn tree names).text.toList,
          c = '/' ∨ c = '.' ∨ c ∈ (Tree.nameIn tree names).chars := fun c hc => .inr (.inr hc)
      have hraw := untilZero_of_proper hproper hchars
      rwa [String.ofList_toList] at hraw
    · rintro ⟨hfits, hparent⟩
      rw [(nameField_nameIn_iff hnames habsolute hne hparent).2 ⟨rfl, hfits⟩] at herror
      cases herror

/-- What lies in a tree under one name is found under its own name, be that short or long. -/
theorem Member.listedName_of_proper (hencode : m.encode = .ok blocks)
    (hname : m.name = Tree.nameIn tree names) (htree : ProperName tree.text)
    (hnames : ∀ name ∈ names, ProperName name) :
    m.listedName = Text.Utf8.encode m.name.text := by
  have hsteps : ∀ name, .into name ∈ tree.bareSteps → ProperName name := by
    intro name hmem
    rw [Path.bareSteps_of_proper htree, List.mem_singleton] at hmem
    cases hmem
    exact htree
  rw [listedName_of_encode hencode hname hnames hsteps, Tree.storedName_of_proper htree hnames, hname]

end Tar

end Bootstrap
