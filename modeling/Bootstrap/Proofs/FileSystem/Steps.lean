import Bootstrap.FileSystem.Resolve
import Bootstrap.FileSystem.Staging

/-!
# The steps of a path text

A path text is cut at its slashes, and each stretch asks for one step or for none.
This file says which steps the texts have that are put together or cut: a name put
behind a text is one step more, and the lexical parent of a text asks for the steps
in front of its last one, up to steps that stay in place.

* `Path.bareSteps` — the steps without the one that a final slash asks for;
* `Path.Ends` — the last step of a text is a name and no slash follows it;
* `Staged.directoryOf_cases` — the directory in which a destination is staged.
-/

namespace Bootstrap

namespace Path

/-- The steps of a path, without the one that a final slash asks for. -/
def bareSteps (p : Path) : List PathStep := p.stretches.filterMap PathStep.ofStretch

theorem steps_eq (p : Path) :
    p.steps = p.bareSteps ++ (if p.endsWithSlash then [.stay] else []) := rfl

@[simp] theorem chars_ofChars (cs : List Char) : (ofChars cs).chars = cs := String.toList_ofList

/-- What stands in front of a text that is joined to a path. -/
def lead (left : Path) : List Char :=
  if left.chars.isEmpty || left.endsWithSlash then left.chars else left.chars ++ ['/']

theorem chars_join (left right : Path) :
    (left.join right).chars =
      if right.isAbsolute then right.chars else left.lead ++ right.chars := by
  unfold join lead
  split
  · rfl
  · split <;> simp

/-- What stands in front of a joined text is empty or ends in a slash. -/
theorem lead_cases (left : Path) :
    (left.chars = [] ∧ left.lead = []) ∨ ∃ up, left.lead = up ++ ['/'] := by
  unfold lead
  cases hempty : left.chars with
  | nil => simp
  | cons c rest =>
      right
      by_cases hslash : left.endsWithSlash
      · simp only [hslash, Bool.or_true, if_true]
        have hlast : (c :: rest).getLast? = some '/' := by
          rw [← hempty]
          simpa [endsWithSlash] using hslash
        obtain ⟨up, hup⟩ := List.getLast?_eq_some_iff.1 hlast
        exact ⟨up, hup⟩
      · simp only [hslash, List.isEmpty_cons, Bool.or_false]
        exact ⟨c :: rest, rfl⟩

end Path

/-- The stretch that asks for a name is that name. -/
theorem PathStep.ofStretch_eq_into_iff {stretch : List Char} {name : String} :
    ofStretch stretch = some (.into name) ↔
      stretch = name.toList ∧ name.toList ≠ [] ∧ name.toList ≠ ['.'] ∧ name.toList ≠ ['.', '.'] := by
  unfold ofStretch
  split
  · simp only [reduceCtorEq, false_iff]
    rintro ⟨h, hne, _⟩
    exact hne h.symm
  · simp only [Option.some.injEq, reduceCtorEq, false_iff]
    rintro ⟨h, _, hne, _⟩
    exact hne h.symm
  · simp only [Option.some.injEq, reduceCtorEq, false_iff]
    rintro ⟨h, _, _, hne⟩
    exact hne h.symm
  · rename_i hnil hdot hdots
    simp only [Option.some.injEq, into.injEq, ← String.toList_inj, String.toList_ofList]
    constructor
    · rintro rfl
      exact ⟨rfl, hnil, hdot, hdots⟩
    · exact And.left

theorem PathStep.ofStretch_eq_none_iff {stretch : List Char} :
    ofStretch stretch = none ↔ stretch = [] := by
  unfold ofStretch
  split <;> simp_all

namespace Path

/-- The path is `up` followed by a slash and a name.  Every path whose last step is a name and that
does not end in a slash is one; `first` are the steps in front of the name. -/
structure Ends (p : Path) (first : List PathStep) (name : String) : Prop where
  bare : p.bareSteps = first ++ [.into name]
  noSlash : p.endsWithSlash = false

theorem Ends.steps {p : Path} {first : List PathStep} {name : String} (h : p.Ends first name) :
    p.steps = first ++ [.into name] := by
  simp [steps_eq, h.bare, h.noSlash]

/-- The last step of a path is one name. -/
theorem Ends.unique {p : Path} {first first' : List PathStep} {name name' : String}
    (h : p.Ends first name) (h' : p.Ends first' name') : first = first' ∧ name = name' := by
  have := List.append_inj' (h.bare.symm.trans h'.bare) rfl
  simpa using this

/-- A text with a name behind its last slash ends in that name. -/
theorem ends_of_chars {p : Path} {up last : List Char} (hchars : p.chars = up ++ '/' :: last)
    (hslash : '/' ∉ last) (hne : last ≠ []) (hdot : last ≠ ['.']) (hdots : last ≠ ['.', '.']) :
    p.Ends ((up.splitOn '/').filterMap PathStep.ofStretch) (String.ofList last) := by
  have hstep : PathStep.ofStretch last = some (.into (String.ofList last)) := by
    rw [PathStep.ofStretch_eq_into_iff]
    simp [hne, hdot, hdots]
  refine ⟨?_, ?_⟩
  · unfold bareSteps stretches
    rw [hchars, List.splitOn_append_cons_self, List.splitOn_eq_singleton hslash,
      List.filterMap_append]
    simp [hstep]
  · unfold endsWithSlash
    rw [hchars]
    obtain ⟨front, c, rfl⟩ := (List.eq_nil_or_concat last).resolve_left hne
    have hc : c ≠ '/' := by
      rintro rfl
      exact hslash (by simp)
    have hsplit : up ++ '/' :: front.concat c = (up ++ '/' :: front) ++ [c] := by simp
    rw [hsplit, List.getLast?_concat]
    simpa using hc

/-- The root of a text is decided in front of its last slash. -/
theorem isAbsolute_of_chars {p : Path} {up last : List Char} (hchars : p.chars = up ++ '/' :: last) :
    p.isAbsolute = ((up ++ ['/']).head? == some '/') := by
  unfold isAbsolute
  rw [hchars]
  cases up <;> simp

theorem not_mem_of_mem_splitOn {c : Char} {stretch text : List Char}
    (h : stretch ∈ text.splitOn c) : c ∉ stretch := by
  induction text generalizing stretch with
  | nil => simp_all
  | cons x rest ih =>
      rw [List.splitOn_cons_eq_if_modifyHead] at h
      split at h
      · rcases List.mem_cons.1 h with rfl | h
        · simp
        · exact ih h
      · rename_i hx
        cases hrest : rest.splitOn c with
        | nil => simp [hrest] at h
        | cons head tail =>
            rw [hrest, List.modifyHead_cons] at h
            rcases List.mem_cons.1 h with rfl | h
            · have : c ∉ head := ih (by simp [hrest])
              have hne : c ≠ x := fun e => hx (by simp [e])
              simp [hne, this]
            · exact ih (by simp [hrest, h])

/-- A path begins at the root if its first stretch is empty and another one follows. -/
theorem isAbsolute_iff {p : Path} :
    p.isAbsolute = true ↔ ∃ second rest, p.stretches = [] :: second :: rest := by
  unfold isAbsolute stretches
  cases hchars : p.chars with
  | nil => simp
  | cons c rest =>
      have hne := List.splitOn_ne_nil '/' rest
      rw [List.splitOn_cons_eq_if_modifyHead]
      cases hrest : rest.splitOn '/' with
      | nil => exact (hne hrest).elim
      | cons head tail =>
          by_cases hc : c = '/'
          · simp [hc]
          · simp [hc]

/-- A path that ends in a slash ends in an empty stretch. -/
theorem stretches_of_endsWithSlash {p : Path} (h : p.endsWithSlash = true) :
    ∃ front, p.stretches = front ++ [[]] := by
  unfold endsWithSlash at h
  obtain ⟨up, hup⟩ := List.getLast?_eq_some_iff.1 (eq_of_beq h)
  exact ⟨up.splitOn '/', by rw [stretches, hup, List.splitOn_append_cons_self, List.splitOn_nil]⟩

/-- Stretches without slashes are the stretches of the text that they make. -/
theorem stretches_ofChars_intercalate {parts : List (List Char)} (hne : parts ≠ [])
    (hslash : ∀ part ∈ parts, '/' ∉ part) :
    (ofChars (List.intercalate ['/'] parts)).stretches = parts := by
  rw [stretches, chars_ofChars, List.splitOn_intercalate _ hslash hne]

theorem isSilent_iff {stretch : List Char} :
    isSilent stretch = true ↔ stretch = [] ∨ stretch = ['.'] := by
  unfold isSilent Component.ofStretch
  split <;> simp_all

/-- Trimming drops silent stretches, up to one that is not silent or to the last one. -/
theorem trimSilent_eq {parts : List (List Char)} (hne : parts ≠ []) :
    ∃ dropped part rest, parts = dropped ++ part :: rest ∧ trimSilent parts = part :: rest ∧
      (∀ silent ∈ dropped, isSilent silent = true) ∧ (rest = [] ∨ isSilent part = false) := by
  induction parts with
  | nil => exact (hne rfl).elim
  | cons part rest ih =>
      cases rest with
      | nil => exact ⟨[], part, [], rfl, rfl, by simp, .inl rfl⟩
      | cons next rest =>
          by_cases hsilent : isSilent part = true
          · obtain ⟨dropped, kept, tail, hparts, htrim, hdropped, hkept⟩ := ih (by simp)
            refine ⟨part :: dropped, kept, tail, by rw [hparts]; rfl, ?_, ?_, hkept⟩
            · rw [trimSilent, if_pos hsilent, htrim]
              simp
            · simpa [hsilent] using hdropped
          · refine ⟨[], part, next :: rest, rfl, ?_, by simp, .inr (by simpa using hsilent)⟩
            rw [trimSilent, if_neg hsilent]
            simp

theorem intercalate_prefix (sep : List Char) (parts more : List (List Char)) :
    sep.intercalate parts <+: sep.intercalate (parts ++ more) := by
  induction parts with
  | nil => exact List.nil_prefix
  | cons part rest ih =>
      cases rest with
      | nil =>
          cases more with
          | nil => exact List.prefix_rfl
          | cons next more =>
              rw [List.intercalate_singleton, List.singleton_append, List.intercalate_cons_cons,
                List.append_assoc]
              exact List.prefix_append _ _
      | cons next rest =>
          rw [List.cons_append, List.cons_append, List.intercalate_cons_cons,
            List.intercalate_cons_cons]
          exact (List.prefix_append_right_inj _).2 ih

/-- A path is the text that its stretches make. -/
theorem intercalate_stretches (p : Path) : List.intercalate ['/'] p.stretches = p.chars :=
  List.intercalate_splitOn '/'

section

variable {front more : List (List Char)} {last : List Char}

theorem append_ne_append_nil (hlast : last ≠ []) (front' : List (List Char)) :
    front ++ [last] ≠ front' ++ [[]] := by
  intro heq
  exact hlast (List.append_singleton_inj.1 heq).2

/-- Stretches that end in one that is not empty make a text that is left as it is. -/
theorem ofStretches_append (absolute : Bool) (hlast : last ≠ []) :
    ofStretches absolute (front ++ [last]) = ofChars (List.intercalate ['/'] (front ++ [last])) := by
  unfold ofStretches
  split
  · rename_i heq
    exact (append_ne_append_nil hlast [] heq).elim
  · rfl

/-- Such a text does not end in a slash, so its steps are those of its stretches. -/
theorem steps_ofChars_intercalate (hslash : ∀ part ∈ front ++ [last], '/' ∉ part)
    (hlast : last ≠ []) :
    (ofChars (List.intercalate ['/'] (front ++ [last]))).steps =
      (front ++ [last]).filterMap PathStep.ofStretch := by
  have hstretches := stretches_ofChars_intercalate (by simp) hslash
  have hends : (ofChars (List.intercalate ['/'] (front ++ [last]))).endsWithSlash = false := by
    rw [Bool.eq_false_iff]
    intro hends
    obtain ⟨front', heq⟩ := stretches_of_endsWithSlash hends
    rw [hstretches] at heq
    exact append_ne_append_nil hlast front' heq
  rw [steps_eq, hends, bareSteps, hstretches]
  simp

/-- Such a text is not empty. -/
theorem isEmpty_ofChars_intercalate (hslash : ∀ part ∈ front ++ [last], '/' ∉ part)
    (hlast : last ≠ []) :
    (ofChars (List.intercalate ['/'] (front ++ [last]))).text.isEmpty = false := by
  rw [Bool.eq_false_iff]
  intro hempty
  have hstretches := stretches_ofChars_intercalate (by simp) hslash
  have hchars : List.intercalate ['/'] (front ++ [last]) = [] := by
    simpa [ofChars] using hempty
  rw [hchars] at hstretches
  exact append_ne_append_nil hlast [] hstretches.symm

/-- A text begins at the root if the longer one does whose stretches it has at its front. -/
theorem isAbsolute_ofChars_intercalate {p : Path} (h : p.stretches = front ++ [last] ++ more)
    (hlast : last ≠ []) :
    (ofChars (List.intercalate ['/'] (front ++ [last]))).isAbsolute = p.isAbsolute := by
  have hslash : ∀ part ∈ front ++ [last], '/' ∉ part := by
    intro part hpart
    suffices part ∈ p.stretches from not_mem_of_mem_splitOn this
    rw [h]
    exact List.mem_append_left _ hpart
  rw [Bool.eq_iff_iff, isAbsolute_iff, isAbsolute_iff,
    stretches_ofChars_intercalate (by simp) hslash, h]
  cases front with
  | nil => simp [hlast]
  | cons first front => cases front <;> simp

/-- A text stands at the front of the longer one whose stretches it has at its front. -/
theorem chars_ofChars_intercalate_prefix {p : Path} {parts : List (List Char)}
    (h : p.stretches = parts ++ more) :
    (ofChars (List.intercalate ['/'] parts)).chars <+: p.chars := by
  rw [chars_ofChars, ← intercalate_stretches p, h]
  exact intercalate_prefix _ _ _

end

/-- A path whose last step is a name, cut at the stretch of that name. -/
theorem stretches_of_bareSteps {p : Path} {first : List PathStep} {name : String}
    (h : p.bareSteps = first ++ [.into name]) :
    ∃ front blanks, p.stretches = front ++ name.toList :: blanks ∧
      (∀ blank ∈ blanks, blank = []) ∧ front.filterMap PathStep.ofStretch = first ∧
      isSilent name.toList = false := by
  obtain ⟨front, tail, hstretches, hfront, htail⟩ := List.filterMap_eq_append_iff.1 h
  obtain ⟨silent, stretch, blanks, rfl, hsilent, hstretch, hblanks⟩ :=
    List.filterMap_eq_cons_iff.1 htail
  rw [PathStep.ofStretch_eq_into_iff] at hstretch
  obtain ⟨rfl, hnil, hdot, _⟩ := hstretch
  refine ⟨front ++ silent, blanks, by simp [hstretches], ?_, ?_, ?_⟩
  · intro blank hblank
    exact PathStep.ofStretch_eq_none_iff.1 (List.filterMap_eq_nil_iff.1 hblanks blank hblank)
  · rw [List.filterMap_append, hfront, List.filterMap_eq_nil_iff.2 hsilent, List.append_nil]
  · rw [Bool.eq_false_iff]
    intro hs
    rcases isSilent_iff.1 hs with hs | hs
    · exact hnil hs
    · exact hdot hs

theorem trimSilent_append {silents : List (List Char)} {part : List Char}
    {rest : List (List Char)} (hsilents : ∀ silent ∈ silents, isSilent silent = true)
    (hpart : isSilent part = false) :
    trimSilent (silents ++ part :: rest) = part :: rest := by
  induction silents with
  | nil => cases rest <;> simp [trimSilent, hpart]
  | cons silent silents ih =>
      rw [List.cons_append, trimSilent, if_pos (hsilents silent List.mem_cons_self)]
      · exact ih fun s hs => hsilents s (List.mem_cons_of_mem _ hs)
      · simp

/-- The lexical parent of a path whose last step is a name. -/
theorem parent?_of_stretches {p : Path} {front blanks : List (List Char)} {last : List Char}
    (h : p.stretches = front ++ last :: blanks) (hblanks : ∀ blank ∈ blanks, blank = [])
    (hlast : isSilent last = false) :
    p.parent? = some (if front = [] then ⟨""⟩
      else ofStretches p.isAbsolute (trimSilent front.reverse).reverse) := by
  have htrim : trimSilent p.stretches.reverse = last :: front.reverse := by
    rw [h]
    simp only [List.reverse_append, List.reverse_cons, List.append_assoc, List.singleton_append]
    apply trimSilent_append ?_ hlast
    intro silent hsilent
    rw [hblanks silent (List.mem_reverse.1 hsilent)]
    rfl
  have hne : last ≠ [] := by
    rintro rfl
    cases hlast
  unfold parent?
  rw [htrim]
  cases hfront : front.reverse with
  | nil =>
      have : front = [] := List.reverse_eq_nil_iff.1 hfront
      cases last with
      | nil => exact (hne rfl).elim
      | cons c rest => simp [this]
  | cons part rest =>
      have : front ≠ [] := by
        rintro rfl
        simp at hfront
      simp [this]

end Path

/-- Stretches that are part of no component ask for steps that stay in place. -/
theorem PathStep.filterMap_silent {silents : List (List Char)}
    (h : ∀ silent ∈ silents, Path.isSilent silent = true) :
    ∃ count, silents.filterMap ofStretch = List.replicate count .stay := by
  induction silents with
  | nil => exact ⟨0, rfl⟩
  | cons silent rest ih =>
      obtain ⟨count, hcount⟩ := ih fun s hs => h s (List.mem_cons_of_mem _ hs)
      rcases Path.isSilent_iff.1 (h silent List.mem_cons_self) with rfl | rfl
      · exact ⟨count, hcount⟩
      · exact ⟨count + 1, by rw [List.filterMap_cons, hcount]; rfl⟩

namespace Staged

theorem directoryOf_of_parent? {p parent : Path} (h : p.parent? = some parent)
    (hne : parent.text.isEmpty = false) : directoryOf p = parent := by
  simp [directoryOf, h, hne]

/-- **Where a destination is staged.**  A destination whose last step is a name is staged in the
current directory, in the root, or in a directory whose steps are those in front of the name, up
to steps that stay in place. -/
theorem directoryOf_cases {p : Path} {first : List PathStep} {name : String}
    (h : p.bareSteps = first ++ [.into name]) :
    (first = [] ∧ p.isAbsolute = false ∧ directoryOf p = ⟨"."⟩) ∨
      (p.isAbsolute = true ∧ directoryOf p = ⟨"/"⟩ ∧ ∃ count, first = List.replicate count .stay) ∨
      ((directoryOf p).isAbsolute = p.isAbsolute ∧ (directoryOf p).chars <+: p.chars ∧
        ∃ count, first = (directoryOf p).steps ++ List.replicate count .stay) := by
  obtain ⟨front, blanks, hstretches, hblanks, rfl, hlast⟩ := Path.stretches_of_bareSteps h
  have hparent := Path.parent?_of_stretches hstretches hblanks hlast
  have hname : name.toList ≠ [] := by
    intro e
    rw [e] at hlast
    cases hlast
  by_cases hfront : front = []
  · subst hfront
    refine .inl ⟨rfl, ?_, by simp [directoryOf, hparent]⟩
    rw [Bool.eq_false_iff]
    intro habs
    obtain ⟨second, rest, hparts⟩ := Path.isAbsolute_iff.1 habs
    rw [hstretches] at hparts
    exact hname (List.cons.inj hparts).1
  right
  rw [if_neg hfront] at hparent
  -- Silent stretches in front of the name are dropped, and they ask for steps that stay in place.
  have hreversed : front.reverse ≠ [] := by simpa using hfront
  obtain ⟨dropped, part, rest, hreverse, htrim, hdropped, hkept⟩ := Path.trimSilent_eq hreversed
  have hfrontEq : front = (rest.reverse ++ [part]) ++ dropped.reverse := by
    rw [← List.reverse_reverse front, hreverse]
    simp
  obtain ⟨count, hcount⟩ := PathStep.filterMap_silent
    fun s (hs : s ∈ dropped.reverse) => hdropped s (List.mem_reverse.1 hs)
  rw [htrim, List.reverse_cons] at hparent
  rw [hfrontEq, List.append_assoc] at hstretches
  by_cases hroot : rest = [] ∧ part = []
  · -- All that is left is the empty stretch in front of the first slash.
    obtain ⟨rfl, rfl⟩ := hroot
    have habs : p.isAbsolute = true := by
      rw [Path.isAbsolute_iff, hstretches]
      cases hd : dropped.reverse with
      | nil => exact ⟨name.toList, blanks, by simp⟩
      | cons d ds => exact ⟨d, ds ++ name.toList :: blanks, by simp⟩
    refine .inl ⟨habs, ?_, count, ?_⟩
    · exact directoryOf_of_parent? (by rw [hparent, habs]; rfl) rfl
    · rw [hfrontEq, List.filterMap_append, hcount]
      simp [PathStep.ofStretch]
  right
  have hpart : part ≠ [] := by
    rintro rfl
    rcases hkept with hrest | hsilent
    · exact hroot ⟨hrest, rfl⟩
    · cases hsilent
  have hslash : ∀ stretch ∈ rest.reverse ++ [part], '/' ∉ stretch := by
    intro stretch hs
    suffices stretch ∈ p.stretches from Path.not_mem_of_mem_splitOn this
    rw [hstretches]
    exact List.mem_append_left _ hs
  have hdirectory : directoryOf p = .ofChars (List.intercalate ['/'] (rest.reverse ++ [part])) :=
    directoryOf_of_parent? (by rw [hparent, Path.ofStretches_append _ hpart])
      (Path.isEmpty_ofChars_intercalate hslash hpart)
  rw [hdirectory]
  refine ⟨Path.isAbsolute_ofChars_intercalate hstretches hpart,
    Path.chars_ofChars_intercalate_prefix hstretches, count, ?_⟩
  rw [Path.steps_ofChars_intercalate hslash hpart, hfrontEq, List.filterMap_append, hcount]

end Staged

end Bootstrap
