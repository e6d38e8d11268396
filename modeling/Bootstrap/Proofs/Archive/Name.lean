import Bootstrap.Proofs.Archive.Tape
import Bootstrap.Proofs.FileSystem.Absolute
import Bootstrap.Proofs.Text.Encoding

/-!
# Names in an archive

What lies in a source tree is named after the tree and the names on the way down.  No two
ways down have one name, and no such name has a zero among its bytes, at which a reader of
a header would stop.

* `Text.Utf8.ne_zero_of_mem_encode` — a text without the null character has no zero byte;
* `Tree.nameIn_inj` — different ways down have different names.
-/

namespace Bootstrap

namespace Text.Utf8

variable {text : String}

/-- Only the null character has a zero among its bytes. -/
theorem ne_zero_of_mem_encodeChar {c : Char} (hc : c.toNat ≠ 0) {b : UInt8}
    (hb : b ∈ String.utf8EncodeChar c) : b ≠ 0 := by
  have hvalue : c.val.toNat ≠ 0 := hc
  unfold String.utf8EncodeChar at hb
  simp only at hb
  rw [Ne, ← UInt8.toNat_inj]
  -- A character of one byte is that byte; in the others every byte has a mark in its high bits.
  repeat' split at hb
  all_goals
    simp only [List.mem_cons, List.not_mem_nil, or_false] at hb
    rcases hb with rfl | rfl | rfl | rfl
  all_goals
    simp only [UInt8.toNat_ofNat', UInt8.toNat_ofNat]
    omega

theorem ne_zero_of_mem_encode (htext : ∀ c ∈ text.toList, c.toNat ≠ 0) {b : UInt8}
    (hb : b ∈ encode text) : b ≠ 0 := by
  obtain ⟨c, hc, hmem⟩ := List.mem_flatMap.1 hb
  exact ne_zero_of_mem_encodeChar (htext c hc) hmem

end Text.Utf8

namespace Tree

variable {tree tree' : Path} {names names' : Location}

theorem intercalate_cons_eq (first : List Char) (rest : List (List Char)) :
    List.intercalate ['/'] (first :: rest) = first ++ rest.flatMap ('/' :: ·) := by
  induction rest generalizing first with
  | nil => simp
  | cons next rest ih =>
      rw [List.intercalate_cons_cons, ih, List.flatMap_cons]
      simp

/-- The name of something in a tree: that of the tree, a slash, and the names on the way down. -/
theorem chars_nameIn (htree : ProperName tree.text) (hnames : ∀ name ∈ names, ProperName name) :
    (nameIn tree names).chars = tree.chars ++ '/' :: List.intercalate ['/'] (names.map String.toList) := by
  have hright : (⟨String.intercalate "/" names⟩ : Path).chars =
      List.intercalate ['/'] (names.map String.toList) := String.toList_intercalate
  have habsolute : (⟨String.intercalate "/" names⟩ : Path).isAbsolute = false := by
    unfold Path.isAbsolute
    rw [hright]
    cases names with
    | nil => rfl
    | cons name rest =>
        have hname := hnames name List.mem_cons_self
        obtain ⟨c, text, htext⟩ := List.exists_cons_of_ne_nil hname.1
        have hc : c ≠ '/' := (hname.2.2.2 c (by simp [htext])).1
        rw [List.map_cons, intercalate_cons_eq, htext]
        simpa using hc
  have hlead : tree.lead = tree.chars ++ ['/'] := by
    have hslash := (Path.plain_of_noSlash htree.noSlash).2
    have hplain : Path.ofChars tree.text.toList = tree := congrArg Path.mk String.ofList_toList
    have hne : tree.chars.isEmpty = false := by
      rw [Bool.eq_false_iff]
      exact fun h => htree.1 (List.isEmpty_iff.1 h)
    rw [hplain] at hslash
    unfold Path.lead
    simp [hne, hslash]
  unfold nameIn Path.push
  rw [Path.chars_join, habsolute, if_neg (by decide), hlead, hright]
  simp

/-- The stretches of the name of something in a tree.  The tree's own name ends in an empty one. -/
theorem stretches_nameIn (htree : ProperName tree.text) (hnames : ∀ name ∈ names, ProperName name) :
    (nameIn tree names).stretches =
      tree.chars :: if names = [] then [[]] else names.map String.toList := by
  have hslash : ∀ part ∈ tree.chars :: names.map String.toList, '/' ∉ part := by
    intro part hpart
    rcases List.mem_cons.1 hpart with rfl | hpart
    · exact htree.noSlash
    · obtain ⟨name, hname, rfl⟩ := List.mem_map.1 hpart
      exact (hnames name hname).noSlash
  unfold Path.stretches
  rw [chars_nameIn htree hnames]
  cases names with
  | nil =>
      rw [List.map_nil, List.splitOn_append_cons_self,
        List.splitOn_eq_singleton (hslash _ List.mem_cons_self)]
      rfl
  | cons name rest =>
      have hjoined : tree.chars ++ '/' :: List.intercalate ['/'] ((name :: rest).map String.toList) =
          List.intercalate ['/'] (tree.chars :: (name :: rest).map String.toList) := by
        rw [List.map_cons, List.intercalate_cons_cons]
        simp
      rw [hjoined, List.splitOn_intercalate _ hslash (by simp)]
      rfl

/-- **Different ways down have different names**, in one tree and in two. -/
theorem nameIn_inj (htree : ProperName tree.text) (hnames : ∀ name ∈ names, ProperName name)
    (htree' : ProperName tree'.text) (hnames' : ∀ name ∈ names', ProperName name)
    (h : (nameIn tree names).text = (nameIn tree' names').text) : tree = tree' ∧ names = names' := by
  have hstretches : (nameIn tree names).stretches = (nameIn tree' names').stretches := by
    unfold Path.stretches Path.chars
    rw [h]
  rw [stretches_nameIn htree hnames, stretches_nameIn htree' hnames'] at hstretches
  obtain ⟨hfirst, hrest⟩ := List.cons.inj hstretches
  have hempty : ∀ {names : Location}, (∀ name ∈ names, ProperName name) →
      [[]] ≠ names.map String.toList := by
    intro names hnames heq
    obtain ⟨name, hname, hnil⟩ := List.mem_map.1 (heq ▸ List.mem_singleton_self ([] : List Char))
    exact (hnames name hname).1 hnil
  refine ⟨congrArg Path.mk (String.toList_inj.1 hfirst), ?_⟩
  split at hrest
  · split at hrest
    · simp_all
    · exact (hempty hnames' hrest).elim
  · split at hrest
    · exact (hempty hnames hrest.symm).elim
    · exact (List.map_inj_right fun _ _ => String.toList_inj.1).1 hrest

end Tree

end Bootstrap
