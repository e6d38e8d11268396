import Bootstrap.Proofs.Archive.Contents

/-!
# A listing is a depth-first walk

A tree is listed by sorting the ways down to everything in it.  On a tree that a disk can
hold that is the walk one would take by hand: a directory, and then, child by child in byte
order, what stands at and below each.  Both lists are sorted and have the same members, and
there is only one such list.

* `Text.Utf8.encode_lt_iff` — texts are ordered as their bytes are;
* `Location.Before` — the order in which a walk comes to places;
* `DepthFirst` — a walk, directory by directory;
* `DepthFirst.unique` — a sorted list with the right members is the walk;
* `Tree.depthFirst_listing` — **a listing is a depth-first walk**.
-/

namespace Bootstrap

open FileSystem

namespace Text.Utf8

variable {text other : String}

/-- The bytes of a character come in front of those of a later one, whatever follows. -/
theorem encodeChar_lt {c d : Char} (h : c < d) (more more' : Bytes) :
    String.utf8EncodeChar c ++ more < String.utf8EncodeChar d ++ more' := by
  have hvalue : c.val.toNat < d.val.toNat := h
  have hlast : d.val.toNat < 0x110000 := by
    rcases d.valid with hvalid | hvalid <;> omega
  unfold String.utf8EncodeChar
  generalize c.val.toNat = v at *
  generalize d.val.toNat = w at *
  dsimp only
  repeat' split
  all_goals
    simp only [List.cons_append, List.nil_append, List.cons_lt_cons_iff, UInt8.lt_iff_toNat_lt,
      ← UInt8.toNat_inj, UInt8.toNat_ofNat']
  all_goals try omega
  -- Two characters of four bytes differ in one of them.
  have hfirst : v / 262144 ≤ w / 262144 := Nat.div_le_div_right (Nat.le_of_lt hvalue)
  have hsecond : v / 4096 ≤ w / 4096 := Nat.div_le_div_right (Nat.le_of_lt hvalue)
  have hthird : v / 64 ≤ w / 64 := Nat.div_le_div_right (Nat.le_of_lt hvalue)
  by_cases h₁ : v / 262144 = w / 262144
  · refine .inr ⟨by rw [h₁], ?_⟩
    by_cases h₂ : v / 4096 = w / 4096
    · refine .inr ⟨by rw [h₂], ?_⟩
      by_cases h₃ : v / 64 = w / 64
      · exact .inr ⟨by rw [h₃], .inl (by omega)⟩
      · exact .inl (by omega)
    · exact .inl (by omega)
  · exact .inl (by omega)

theorem encode_lt_encode (h : text < other) : encode text < encode other := by
  have hchars : text.toList < other.toList := h
  unfold encode
  generalize text.toList = cs at hchars
  generalize other.toList = ds at hchars
  induction hchars with
  | @nil d ds =>
      rw [List.flatMap_nil, List.flatMap_cons]
      obtain ⟨b, rest, hbytes⟩ := List.exists_cons_of_ne_nil (show String.utf8EncodeChar d ≠ [] by
        unfold String.utf8EncodeChar
        dsimp only
        repeat' split
        all_goals simp)
      rw [hbytes]
      exact List.Lex.nil
  | rel hlt =>
      rw [List.flatMap_cons, List.flatMap_cons]
      exact encodeChar_lt hlt _ _
  | cons _ ih =>
      rw [List.flatMap_cons, List.flatMap_cons]
      exact List.append_left_lt ih

/-- **Texts are ordered as their bytes are.** -/
theorem encode_lt_iff : encode text < encode other ↔ text < other := by
  refine ⟨fun h => ?_, encode_lt_encode⟩
  rcases Std.lt_trichotomy text other with hlt | rfl | hgt
  · exact hlt
  · exact (List.lt_irrefl _ h).elim
  · exact (List.lt_asymm h (encode_lt_encode hgt)).elim

end Text.Utf8

namespace Location

variable {x y z way more more' : Location} {a b : String}

theorem precedes_cons_iff :
    precedes (a :: x) (b :: y) = true ↔ a < b ∨ a = b ∧ precedes x y = true := by
  simp [precedes]

theorem precedes_total (x y : Location) : precedes x y = true ∨ precedes y x = true := by
  induction x generalizing y with
  | nil => exact .inl rfl
  | cons a x ih =>
      cases y with
      | nil => exact .inr rfl
      | cons b y =>
          rw [precedes_cons_iff, precedes_cons_iff]
          rcases Std.lt_trichotomy a b with hlt | rfl | hgt
          · exact .inl (.inl hlt)
          · rcases ih y with h | h
            · exact .inl (.inr ⟨rfl, h⟩)
            · exact .inr (.inr ⟨rfl, h⟩)
          · exact .inr (.inl hgt)

theorem precedes_trans (h : precedes x y = true) (h' : precedes y z = true) :
    precedes x z = true := by
  induction x generalizing y z with
  | nil => rfl
  | cons a x ih =>
      cases y with
      | nil => cases h
      | cons b y =>
          cases z with
          | nil => cases h'
          | cons c z =>
              rw [precedes_cons_iff] at h h' ⊢
              rcases h with h | ⟨rfl, h⟩
              · rcases h' with h' | ⟨rfl, _⟩
                · exact .inl (String.lt_trans h h')
                · exact .inl h
              · rcases h' with h' | ⟨rfl, h'⟩
                · exact .inl h'
                · exact .inr ⟨rfl, ih h h'⟩

theorem precedes_antisymm (h : precedes x y = true) (h' : precedes y x = true) : x = y := by
  induction x generalizing y with
  | nil =>
      cases y with
      | nil => rfl
      | cons b y => cases h'
  | cons a x ih =>
      cases y with
      | nil => cases h
      | cons b y =>
          rw [precedes_cons_iff] at h h'
          rcases h with h | ⟨rfl, h⟩
          · rcases h' with h' | ⟨rfl, _⟩
            · exact (String.lt_asymm h h').elim
            · exact (String.lt_irrefl _ h).elim
          · rw [ih h (h'.resolve_left (String.lt_irrefl _)).2]

theorem precedes_append (way x y : Location) :
    precedes (way ++ x) (way ++ y) = precedes x y := by
  induction way with
  | nil => rfl
  | cons a way ih => simp [precedes, ih]

/-- A walk comes to one place in front of another. -/
def Before (x y : Location) : Prop := precedes x y = true ∧ x ≠ y

/-- A walk comes to a directory in front of what it holds. -/
theorem before_below (way : Location) (hmore : more ≠ []) : Before way (way ++ more) := by
  refine ⟨?_, fun heq => hmore (List.self_eq_append_right.1 heq)⟩
  have hrest := precedes_append way [] more
  rw [List.append_nil] at hrest
  rw [hrest]
  rfl

/-- A walk is through with one child when it comes to the next one. -/
theorem before_of_lt (way : Location) (h : a < b) :
    Before (way ++ a :: more) (way ++ b :: more') := by
  constructor
  · rw [precedes_append, precedes_cons_iff]
    exact .inl h
  · intro heq
    have := (List.cons.inj (List.append_cancel_left heq)).1
    exact String.lt_irrefl b (this ▸ h)

/-- There is one list in the order of a walk. -/
theorem eq_of_before {xs ys : List Location} (hxs : xs.Pairwise Before) (hys : ys.Pairwise Before)
    (hmem : ∀ x, x ∈ xs ↔ x ∈ ys) : xs = ys := by
  refine List.Perm.eq_of_pairwise ?_ hxs hys ?_
  · intro x y _ _ h h'
    exact precedes_antisymm h.1 h'.1
  · refine (List.perm_ext_iff_of_nodup ?_ ?_).2 hmem
    · exact List.nodup_iff_pairwise_ne.2 (hxs.imp fun h => h.2)
    · exact List.nodup_iff_pairwise_ne.2 (hys.imp fun h => h.2)

end Location

/-- **A depth-first walk** through the tree at `top`: from a place to the places below it, child by
child in byte order of their names.  Places are given by the way down to them from `top`. -/
inductive DepthFirst (fs : FileSystem) (top : Location) : Location → List Location → Prop
  | visit {way : Location} (names : List String) (below : String → List Location)
      (ordered : names.Pairwise fun a b => Text.Utf8.encode a < Text.Utf8.encode b)
      (children : ∀ name, name ∈ names ↔ fs.entryAt? (top ++ (way ++ [name])) ≠ none)
      (each : ∀ name ∈ names, DepthFirst fs top (way ++ [name]) (below name)) :
      DepthFirst fs top way (way :: names.flatMap below)

namespace DepthFirst

variable {fs : FileSystem} {top way place : Location} {ways ways' : List Location}

/-- What a walk comes to is what there is. -/
theorem mem_iff (h : DepthFirst fs top way ways) (hsound : fs.Sound) :
    place ∈ ways ↔ ∃ more, place = way ++ more ∧
      (more = [] ∨ fs.entryAt? (top ++ place) ≠ none) := by
  induction h with
  | @visit way names below ordered children each ih =>
      rw [List.mem_cons, List.mem_flatMap]
      constructor
      · rintro (rfl | ⟨name, hname, hplace⟩)
        · exact ⟨[], by simp, .inl rfl⟩
        · obtain ⟨more, rfl, hmore⟩ := (ih name hname).1 hplace
          refine ⟨name :: more, by simp, .inr ?_⟩
          rcases hmore with rfl | hmore
          · rw [List.append_nil]
            exact (children name).1 hname
          · exact hmore
      · rintro ⟨more, rfl, hmore⟩
        cases more with
        | nil => exact .inl (List.append_nil _)
        | cons name more =>
            have hentry := hmore.resolve_left (by simp)
            have hchild : fs.entryAt? (top ++ (way ++ [name])) ≠ none := by
              by_cases hlast : more = []
              · rwa [hlast] at hentry
              · obtain ⟨entry, hentry⟩ := Option.ne_none_iff_exists'.1 hentry
                obtain ⟨node, hnode, _⟩ := nodeAt?_of_entryAt? hentry
                rw [List.append_cons, ← List.append_assoc] at hnode
                have hsome : fs.nodeAt? (top ++ (way ++ [name]) ++ more) ≠ none := by
                  rw [hnode]
                  exact Option.some_ne_none node
                obtain ⟨mode, hmode⟩ := holdsDirectory_iff.1 (hsound.holdsDirectory_above hsome hlast)
                simp [hmode]
            have hname := (children name).2 hchild
            exact .inr ⟨name, hname, (ih name hname).2 ⟨more, List.append_cons _ _ _, .inr hentry⟩⟩

/-- A walk comes to places in order. -/
theorem pairwise (h : DepthFirst fs top way ways) (hsound : fs.Sound) :
    ways.Pairwise Location.Before := by
  induction h with
  | @visit way names below ordered children each ih =>
      have hmem : ∀ {name : String} {place : Location}, name ∈ names → place ∈ below name →
          ∃ more, place = way ++ name :: more := by
        intro name place hname hplace
        obtain ⟨more, rfl, _⟩ := ((each name hname).mem_iff hsound).1 hplace
        exact ⟨more, by simp⟩
      rw [List.pairwise_cons, List.pairwise_flatMap]
      refine ⟨fun place hplace => ?_, ih, ?_⟩
      · obtain ⟨name, hname, hplace⟩ := List.mem_flatMap.1 hplace
        obtain ⟨more, rfl⟩ := hmem hname hplace
        exact Location.before_below way (by simp)
      · refine ordered.imp_of_mem fun ha hb hlt x hx y hy => ?_
        obtain ⟨more, rfl⟩ := hmem ha hx
        obtain ⟨more', rfl⟩ := hmem hb hy
        exact Location.before_of_lt way (Text.Utf8.encode_lt_iff.1 hlt)

/-- **A sorted list with the right members is the walk.** -/
theorem unique (h : DepthFirst fs top [] ways) (hsound : fs.Sound)
    (hways : ways'.Pairwise Location.Before)
    (hmem : ∀ place, place ∈ ways' ↔ place = [] ∨ fs.entryAt? (top ++ place) ≠ none) :
    ways' = ways := by
  refine Location.eq_of_before hways (h.pairwise hsound) fun place => ?_
  rw [hmem, h.mem_iff hsound]
  constructor
  · intro hplace
    exact ⟨place, rfl, hplace⟩
  · rintro ⟨_, rfl, hplace⟩
    exact hplace

end DepthFirst

namespace Tree

variable {fs : FileSystem} {top way names : Location} {entry : Entry}

/-- Sorting keeps what is sorted in order. -/
theorem pairwise_insert {x : Location × Entry} {rest : List (Location × Entry)}
    (h : rest.Pairwise fun x y => Location.precedes x.1 y.1 = true) :
    (insert x rest).Pairwise fun x y => Location.precedes x.1 y.1 = true := by
  induction rest with
  | nil => simp [insert]
  | cons y rest ih =>
      obtain ⟨hfirst, hrest⟩ := List.pairwise_cons.1 h
      unfold insert
      split
      · rename_i hle
        refine List.pairwise_cons.2 ⟨fun z hz => ?_, h⟩
        rcases List.mem_cons.1 hz with rfl | hz
        · exact hle
        · exact Location.precedes_trans hle (hfirst z hz)
      · rename_i hle
        refine List.pairwise_cons.2 ⟨fun z hz => ?_, ih hrest⟩
        rcases mem_insert.1 hz with rfl | hz
        · exact (Location.precedes_total _ _).resolve_left hle
        · exact hfirst z hz

theorem perm_insert (x : Location × Entry) (rest : List (Location × Entry)) :
    (insert x rest).Perm (x :: rest) := by
  induction rest with
  | nil => exact List.Perm.refl _
  | cons y rest ih =>
      unfold insert
      split
      · exact List.Perm.refl _
      · exact (ih.cons y).trans (List.Perm.swap x y rest)

theorem perm_listing (fs : FileSystem) (place : Location) :
    (listing fs place).Perm (fs.below place) := by
  unfold listing
  induction fs.below place with
  | nil => exact List.Perm.refl _
  | cons x rest ih => exact (perm_insert x _).trans (ih.cons x)

/-- Of entries with different places each is found at its own. -/
theorem lookup_of_mem {place : Location} {node : Node} {nodes : List (Location × Node)}
    (hsingle : (nodes.map Prod.fst).Nodup) (hmem : (place, node) ∈ nodes) :
    nodes.lookup place = some node := by
  induction nodes with
  | nil => cases hmem
  | cons x rest ih =>
      obtain ⟨other, found⟩ := x
      rw [List.map_cons, List.nodup_cons] at hsingle
      rcases List.mem_cons.1 hmem with heq | hrest
      · cases heq
        simp
      · have hne : (place == other) = false := by
          rw [beq_eq_false_iff_ne]
          rintro rfl
          exact hsingle.1 (List.mem_map.2 ⟨_, hrest, rfl⟩)
        rw [List.lookup_cons, hne]
        exact ih hsingle.2 hrest

/-- What is listed is what stands below the place. -/
theorem mem_listing (hsound : fs.Sound) :
    (names, entry) ∈ listing fs top ↔ names ≠ [] ∧ fs.entryAt? (top ++ names) = some entry := by
  rw [mem_listing_iff, mem_below_iff]
  refine and_congr_right fun hne => ?_
  have hnode : fs.nodeAt? (top ++ names) = fs.nodes.lookup (top ++ names) := by
    unfold nodeAt?
    rw [if_neg (by simp [hne])]
  unfold entryAt?
  rw [hnode, Option.bind_eq_some_iff]
  constructor
  · rintro ⟨node, hmem, hshown⟩
    exact ⟨node, lookup_of_mem hsound.single hmem, hshown⟩
  · rintro ⟨node, hlookup, hshown⟩
    exact ⟨node, mem_of_lookup hlookup, hshown⟩

/-- What is below a place has different ways down from there. -/
theorem nodup_below (hsound : fs.Sound) : ((fs.below top).map Prod.fst).Nodup := by
  have hnodes := List.pairwise_map.1 (List.nodup_iff_pairwise_ne.1 hsound.single)
  unfold FileSystem.below
  rw [List.nodup_iff_pairwise_ne, List.pairwise_map, List.pairwise_filterMap]
  refine hnodes.imp fun {x y} hne a ha b hb => ?_
  have hplace : ∀ {x : Location × Node} {a : Location × Entry},
      (if top.isPrefixOf x.1 ∧ top ≠ x.1 then
        (fs.shown x.2).map fun entry => (x.1.drop top.length, entry) else none) = some a →
      x.1 = top ++ a.1 := by
    intro x a h
    split at h
    · rename_i hbelow
      obtain ⟨rest, hrest⟩ := List.isPrefixOf_iff_prefix.1 hbelow.1
      obtain ⟨_, _, rfl⟩ := Option.map_eq_some_iff.1 h
      rw [← hrest, List.drop_left]
    · cases h
  intro heq
  exact hne (by rw [hplace ha, hplace hb, heq])

/-- What is listed is in the order of a walk. -/
theorem pairwise_listing (hsound : fs.Sound) :
    (listing fs top).Pairwise fun x y => Location.Before x.1 y.1 := by
  have hsorted : (listing fs top).Pairwise fun x y => Location.precedes x.1 y.1 = true := by
    unfold listing
    induction fs.below top with
    | nil => exact List.Pairwise.nil
    | cons x rest ih => exact pairwise_insert ih
  have hnodup := ((perm_listing fs top).map Prod.fst).nodup_iff.2 (nodup_below hsound)
  have hne := List.pairwise_map.1 (List.nodup_iff_pairwise_ne.1 hnodup)
  exact List.pairwise_and_iff.2 ⟨hsorted, hne⟩

/-- The name of something that stands right below a place. -/
def childName? (x : Location × Entry) : Option String :=
  if x.1.length = 1 then x.1.head? else none

theorem childName?_eq_some_iff {x : Location × Entry} {name : String} :
    childName? x = some name ↔ x.1 = [name] := by
  obtain ⟨way, entry⟩ := x
  unfold childName?
  rcases way with _ | ⟨first, _ | ⟨second, rest⟩⟩ <;> simp

/-- The names of what stands right below a place, in order. -/
theorem exists_children (hsound : fs.Sound) (place : Location) :
    ∃ names : List String, names.Pairwise (· < ·) ∧
      ∀ name, name ∈ names ↔ fs.entryAt? (place ++ [name]) ≠ none := by
  refine ⟨(listing fs place).filterMap childName?, ?_, fun name => ?_⟩
  · refine List.pairwise_filterMap.2 ((pairwise_listing hsound).imp ?_)
    intro x y hbefore a ha b hb
    rw [childName?_eq_some_iff.1 ha, childName?_eq_some_iff.1 hb] at hbefore
    obtain ⟨hle, hne⟩ := hbefore
    rcases Location.precedes_cons_iff.1 hle with hlt | ⟨rfl, _⟩
    · exact hlt
    · exact (hne rfl).elim
  · rw [List.mem_filterMap]
    constructor
    · rintro ⟨⟨names, entry⟩, hmem, hname⟩
      obtain rfl : names = [name] := childName?_eq_some_iff.1 hname
      simp [((mem_listing hsound).1 hmem).2]
    · intro hsome
      obtain ⟨entry, hentry⟩ := Option.ne_none_iff_exists'.1 hsome
      exact ⟨([name], entry), (mem_listing hsound).2 ⟨by simp, hentry⟩,
        childName?_eq_some_iff.2 rfl⟩

/-- A tree can be walked, if the ways down are not longer than some bound. -/
theorem exists_depthFirst_of_bound (hsound : fs.Sound) {bound : Nat}
    (hbound : ∀ more, fs.entryAt? (top ++ (way ++ more)) ≠ none → more.length ≤ bound) :
    ∃ ways, DepthFirst fs top way ways := by
  induction bound generalizing way with
  | zero =>
      refine ⟨_, .visit [] (fun _ => []) .nil (fun name => ?_) (by simp)⟩
      simp only [List.not_mem_nil, false_iff]
      intro hsome
      simpa using hbound [name] hsome
  | succ bound ih =>
      obtain ⟨names, hordered, hnames⟩ := exists_children hsound (top ++ way)
      have hbelow : ∀ name : String, ∃ ways, DepthFirst fs top (way ++ [name]) ways := by
        intro name
        refine ih fun more hsome => ?_
        have hlength := hbound (name :: more) (by simpa using hsome)
        simpa using hlength
      obtain ⟨below, hbelow⟩ := Classical.axiomOfChoice hbelow
      refine ⟨_, .visit names below (hordered.imp Text.Utf8.encode_lt_encode) (fun name => ?_)
        fun name _ => hbelow name⟩
      rw [hnames, List.append_assoc]

/-- A tree can be walked. -/
theorem exists_depthFirst (hsound : fs.Sound) (top : Location) :
    ∃ ways, DepthFirst fs top [] ways := by
  have hbound : ∀ more, fs.entryAt? (top ++ ([] ++ more)) ≠ none →
      more.length ≤ fs.nodes.foldl (fun n x => max n x.1.length) 0 := by
    intro more hsome
    obtain ⟨entry, hentry⟩ := Option.ne_none_iff_exists'.1 hsome
    obtain ⟨node, hnode, _⟩ := nodeAt?_of_entryAt? hentry
    rw [List.nil_append] at hnode
    unfold nodeAt? at hnode
    split at hnode
    · rename_i hroot
      obtain ⟨_, rfl⟩ := List.append_eq_nil_iff.1 hroot
      exact Nat.zero_le _
    · have hlength := mem_le_foldl_max (fun x : Location × Node => x.1.length) (mem_of_lookup hnode) 0
      rw [List.length_append] at hlength
      exact Nat.le_trans (Nat.le_add_left _ _) hlength
  exact exists_depthFirst_of_bound hsound hbound

/-- **A listing is a depth-first walk.** -/
theorem depthFirst_listing (hsound : fs.Sound) (top : Location) :
    DepthFirst fs top [] ([] :: (listing fs top).map Prod.fst) := by
  obtain ⟨ways, hways⟩ := exists_depthFirst hsound top
  have heq : [] :: (listing fs top).map Prod.fst = ways := by
    refine hways.unique hsound ?_ fun place => ?_
    · refine List.pairwise_cons.2 ⟨fun place hplace => ?_, ?_⟩
      · obtain ⟨⟨names, entry⟩, hmem, rfl⟩ := List.mem_map.1 hplace
        have hne := ((mem_listing hsound).1 hmem).1
        exact Location.before_below [] hne
      · exact List.pairwise_map.2 (pairwise_listing hsound)
    · rw [List.mem_cons, List.mem_map]
      constructor
      · rintro (rfl | ⟨⟨names, entry⟩, hmem, rfl⟩)
        · exact .inl rfl
        · exact .inr (by simp [((mem_listing hsound).1 hmem).2])
      · rintro (rfl | hsome)
        · exact .inl rfl
        · by_cases hroot : place = []
          · exact .inl hroot
          · obtain ⟨entry, hentry⟩ := Option.ne_none_iff_exists'.1 hsome
            exact .inr ⟨(place, entry), (mem_listing hsound).2 ⟨hroot, hentry⟩, rfl⟩
  exact heq ▸ hways

end Tree

end Bootstrap
