import Bootstrap.Proofs.Archive.Header
import Bootstrap.Proofs.FileSystem.Place

/-!
# Tapes are read back

An archive is written member by member, and a member is one record, or two if its name
needs one of its own.  A reader finds the members in order, each under its full name, and
stops at the two blocks of zeros.

* `Member.listed` — what a reader finds of a member;
* `readRecords?_record` — one step of a reader: a header and its content;
* `read?_members` — **the whole archive**: what was written is what is found.
-/

namespace Bootstrap.Tar

open FileSystem (bind_eq_ok_iff)

variable {stored more result rest content : Bytes} {fuel : Nat} {h : Header} {m : Member}
variable {cutOff alone : Bool} {components : List Path.Component} {longName : Option Bytes}

theorem extendName_eq_ok_iff :
    extendName stored more = .ok result ↔
      result = stored ++ more ∧ (stored ++ more).length ≤ nameSize := by
  unfold extendName
  rw [List.length_append]
  split
  · simp only [reduceCtorEq, false_iff]
    omega
  · simp only [Except.ok.injEq]
    constructor
    · rintro rfl
      exact ⟨rfl, by omega⟩
    · exact fun h => h.1.symm

/-- A component stands behind a slash, unless it is the first. -/
theorem extendComponent_eq_ok_iff :
    extendComponent stored more = .ok result ↔
      result = (if stored = [] then more else stored ++ 47 :: more) ∧ result.length ≤ nameSize := by
  unfold extendComponent
  cases stored with
  | nil =>
      rw [List.isEmpty_nil, if_pos rfl, if_pos rfl, pure_bind, extendName_eq_ok_iff, List.nil_append]
      exact and_congr_right fun h => h ▸ Iff.rfl
  | cons b rest =>
      rw [List.isEmpty_cons, if_neg (by decide), if_neg (by simp)]
      simp only [bind_eq_ok_iff, extendName_eq_ok_iff]
      constructor
      · rintro ⟨slashed, ⟨rfl, _⟩, rfl, hlength⟩
        exact ⟨by simp, hlength⟩
      · rintro ⟨rfl, hlength⟩
        refine ⟨_, ⟨rfl, ?_⟩, by simp, ?_⟩ <;>
          · simp only [List.length_append, List.length_cons, List.length_nil] at hlength ⊢
            omega

/-- What is stored of a path fits the name field. -/
theorem length_storeComponents (hstored : stored.length ≤ nameSize)
    (h : storeComponents cutOff alone stored components = .ok result) :
    result.length ≤ nameSize := by
  induction components generalizing stored with
  | nil =>
      cases h
      exact hstored
  | cons component rest ih =>
      cases component with
      | root => cases h
      | current =>
          cases halone : alone with
          | false =>
              rw [storeComponents, halone] at h
              rw [halone] at ih
              exact ih hstored h
          | true =>
              rw [storeComponents, halone, if_pos rfl] at h
              obtain ⟨next, hnext, h⟩ := bind_eq_ok_iff.1 h
              rw [halone] at ih
              exact ih (extendComponent_eq_ok_iff.1 hnext).2 h
      | parent =>
          rw [storeComponents] at h
          split at h
          · obtain ⟨next, hnext, h⟩ := bind_eq_ok_iff.1 h
            exact ih (extendComponent_eq_ok_iff.1 hnext).2 h
          · cases h
      | name text =>
          rw [storeComponents] at h
          obtain ⟨next, hnext, h⟩ := bind_eq_ok_iff.1 h
          exact ih (extendComponent_eq_ok_iff.1 hnext).2 h

theorem length_nameField {p : Path} (h : nameField cutOff p = .ok result) :
    result.length ≤ nameSize := by
  unfold nameField at h
  obtain ⟨stored, hstored, h⟩ := bind_eq_ok_iff.1 h
  have hlength := length_storeComponents (Nat.zero_le _) hstored
  split at h
  · cases h
  · split at h
    · obtain ⟨rfl, hle⟩ := extendName_eq_ok_iff.1 h
      exact hle
    · cases h
      exact hlength

namespace Member

/-- The name under which a reader finds a member: the one in its header, or the one in a record of
its own.  A zero ends it. -/
def listedName (m : Member) : Bytes :=
  match nameField false m.name with
  | .ok stored => untilZero stored
  | .error _ => untilZero (Text.Utf8.encode m.name.text)

/-- What a reader finds of a member. -/
def listed (m : Member) : Listed :=
  ⟨m.listedName, m.kind.flag, m.mode, m.content.length, fixedTime, m.content⟩

/-- The sizes of a member fit their fields: that of its content, and that of its name if the name goes
into a record of its own. -/
structure Fits (m : Member) : Prop where
  content : m.content.length < 256 ^ 11
  name : ∀ e, nameField false m.name = .error e →
    (Text.Utf8.encode m.name.text).length + 1 < 256 ^ 11

/-- The header of a member. -/
def header (m : Member) (stored : Bytes) : Header :=
  ⟨stored, m.mode, m.content.length, fixedTime, m.kind.flag⟩

theorem flag_ne_longNameFlag (m : Member) (stored : Bytes) :
    (m.header stored).flag ≠ longNameFlag := by
  have hflag : ∀ kind : Kind, kind.flag ≠ longNameFlag := by
    rintro (_ | _) <;> decide
  exact hflag m.kind

theorem fits_header (fits : m.Fits) (hstored : stored.length ≤ nameSize) :
    (m.header stored).Fits where
  name := hstored
  mode := by
    have hmode : m.mode ≤ 0o755 := by
      unfold mode
      split <;> decide
    exact Nat.lt_of_le_of_lt hmode (by decide)
  size := fits.content
  time := show fixedTime < 256 ^ 11 by decide

end Member

/-! ### Reading -/

theorem length_padded (content : Bytes) :
    (padded content).length = content.length + Bytes.shortfall blockSize content.length := by
  simp [padded]

/-- What is too long for two blocks of zeros is not the end of an archive. -/
theorem ne_trailer {bytes : Bytes} (hlength : 2 * blockSize < bytes.length) : bytes ≠ trailer := by
  rintro rfl
  simp [trailer] at hlength

/-- **One step of a reader**: a header and its content.  A name that was read goes to the next member,
and a member takes the name that was read ahead of it. -/
theorem readRecords?_record (fits : h.Fits) (hsize : h.size = content.length)
    (hrest : 2 * blockSize ≤ rest.length) :
    readRecords? (fuel + 1) longName (h.encode ++ (padded content ++ rest)) =
      if h.flag = longNameFlag then readRecords? fuel (some (untilZero content)) rest
      else (readRecords? fuel none rest).map
        (⟨longName.getD (untilZero h.name), h.flag, h.mode, h.size, h.time, content⟩ :: ·) := by
  have hlength := Header.length_encode fits
  have hlong : 2 * blockSize < (h.encode ++ (padded content ++ rest)).length := by
    simp only [List.length_append, hlength, blockSize] at *
    omega
  have hcontent : (padded content ++ rest).take h.size = content := by
    rw [padded, List.append_assoc, List.take_left' hsize.symm]
  have hafter : (padded content ++ rest).drop (h.size + Bytes.shortfall blockSize h.size) = rest := by
    rw [hsize, List.drop_left' (length_padded content)]
  have hlarge : ¬ (padded content ++ rest).length < h.size + Bytes.shortfall blockSize h.size := by
    rw [hsize, List.length_append, length_padded]
    omega
  rw [readRecords?, if_neg fun hend => ne_trailer hlong hend.1]
  simp only [List.take_left' hlength, List.drop_left' hlength, readHeader?_encode fits,
    Option.bind_eq_bind, Option.bind_some, hcontent, hafter, if_neg hlarge]
  split
  · rfl
  · cases readRecords? fuel none rest <;> rfl

/-- The header of a record that carries a long name. -/
def longNameHeader (name : Bytes) : Header :=
  ⟨longNameMark, 0o644, (name ++ [0]).length, 0, longNameFlag⟩

theorem longNameRecord_eq (name : Bytes) :
    longNameRecord name = (longNameHeader name).encode ++ padded (name ++ [0]) := rfl

theorem fits_longNameHeader {name : Bytes} (hname : name.length + 1 < 256 ^ 11) :
    (longNameHeader name).Fits where
  name := show longNameMark.length ≤ nameSize by decide
  mode := show 0o644 < 256 ^ 7 by decide
  size := by
    unfold longNameHeader
    rwa [List.length_append]
  time := show 0 < 256 ^ 11 by decide

/-- A member whose name is in its header. -/
theorem readRecords?_short (fits : m.Fits) (hname : nameField false m.name = .ok stored)
    (hrest : 2 * blockSize ≤ rest.length) :
    readRecords? (fuel + 1) none ((m.header stored).encode ++ (padded m.content ++ rest)) =
      (readRecords? fuel none rest).map (m.listed :: ·) := by
  have hfits := Member.fits_header fits (length_nameField hname)
  rw [readRecords?_record hfits rfl hrest, if_neg (m.flag_ne_longNameFlag _), Member.listed,
    Member.listedName, hname]
  rfl

/-- A member behind a record that carries its name; what its header says does not matter. -/
theorem readRecords?_long {e : NameError} (fits : m.Fits) (hname : nameField false m.name = .error e)
    (hstored : stored.length ≤ nameSize) (hrest : 2 * blockSize ≤ rest.length) :
    readRecords? (fuel + 2) none (longNameRecord (Text.Utf8.encode m.name.text) ++
        ((m.header stored).encode ++ (padded m.content ++ rest))) =
      (readRecords? fuel none rest).map (m.listed :: ·) := by
  have hnext : 2 * blockSize ≤
      ((m.header stored).encode ++ (padded m.content ++ rest)).length := by
    simp only [List.length_append]
    omega
  have hzero : untilZero (Text.Utf8.encode m.name.text ++ [0]) =
      untilZero (Text.Utf8.encode m.name.text) := untilZero_append_zeros _ 1
  rw [longNameRecord_eq, List.append_assoc,
    readRecords?_record (fits_longNameHeader (fits.name e hname)) rfl hnext, longNameHeader, if_pos rfl,
    readRecords?_record (Member.fits_header fits hstored) rfl hrest,
    if_neg (m.flag_ne_longNameFlag _), hzero, Member.listed, Member.listedName, hname]
  rfl

/-- A name has no record of its own if it fits, and one if it is long and can be cut off. -/
theorem nameRecords_eq_ok {p : Path} {records stored : Bytes}
    (h : nameRecords p = .ok (records, stored)) :
    (nameField false p = .ok stored ∧ records = []) ∨
      (∃ e, nameField false p = .error e) ∧ nameSize ≤ (Text.Utf8.encode p.text).length ∧
        nameField true (.ofChars (wholePrefix nameSize p.chars)) = .ok stored ∧
        records = longNameRecord (Text.Utf8.encode p.text) := by
  unfold nameRecords at h
  cases hname : nameField false p with
  | ok whole =>
      rw [hname] at h
      cases h
      exact .inl ⟨rfl, rfl⟩
  | error e =>
      simp only [hname] at h
      split at h
      · cases h
      · rename_i hlong
        split at h
        · rename_i cut hcut
          cases h
          exact .inr ⟨⟨e, rfl⟩, Nat.le_of_not_lt hlong, hcut, rfl⟩
        · cases h

/-- The records of a name, then its member. -/
theorem readRecords?_member {blocks : Bytes} (fits : m.Fits) (h : m.encode = .ok blocks)
    (hrest : 2 * blockSize ≤ rest.length) (hfuel : (blocks ++ rest).length ≤ blockSize * fuel) :
    ∃ fuel', rest.length ≤ blockSize * fuel' ∧
      readRecords? fuel none (blocks ++ rest) =
        (readRecords? fuel' none rest).map (m.listed :: ·) := by
  unfold Member.encode at h
  obtain ⟨⟨records, stored⟩, hrecords, h⟩ := bind_eq_ok_iff.1 h
  have hblocks : records ++ ((m.header stored).encode ++ padded m.content) = blocks := by
    rw [← List.append_assoc]
    exact Except.ok.inj h
  subst hblocks
  simp only [List.append_assoc] at hfuel ⊢
  rcases nameRecords_eq_ok hrecords with ⟨hname, rfl⟩ | ⟨⟨e, hname⟩, _, hcut, rfl⟩
  · have hheader := Header.length_encode (Member.fits_header fits (length_nameField hname))
    simp only [List.nil_append, List.length_append, hheader, blockSize] at hfuel ⊢
    obtain ⟨fuel, rfl⟩ : ∃ n, fuel = n + 1 := ⟨fuel - 1, by omega⟩
    exact ⟨fuel, by omega, readRecords?_short fits hname hrest⟩
  · have hstored := length_nameField hcut
    have hheader := Header.length_encode (Member.fits_header fits hstored)
    have hheader' := Header.length_encode (fits_longNameHeader (fits.name e hname))
    simp only [longNameRecord_eq, List.append_assoc, List.length_append, hheader, hheader',
      blockSize] at hfuel
    obtain ⟨fuel, rfl⟩ : ∃ n, fuel = n + 2 := ⟨fuel - 2, by omega⟩
    exact ⟨fuel, by simp only [blockSize]; omega, readRecords?_long fits hname hstored hrest⟩

/-- What has been written of a member fits, if all of it is not too long. -/
theorem Member.fits_of_encode {blocks : Bytes} (h : m.encode = .ok blocks)
    (hlength : blocks.length < 256 ^ 11) : m.Fits := by
  unfold Member.encode at h
  obtain ⟨⟨records, stored⟩, hrecords, h⟩ := bind_eq_ok_iff.1 h
  have hblocks : blocks.length = records.length + (m.header stored).encode.length +
      (padded m.content).length := by
    rw [← Except.ok.inj h, List.length_append, List.length_append]
    rfl
  rw [length_padded] at hblocks
  refine ⟨by omega, fun e hname => ?_⟩
  rcases nameRecords_eq_ok hrecords with ⟨hshort, _⟩ | ⟨_, _, _, rfl⟩
  · cases hname.symm.trans hshort
  · rw [longNameRecord_eq, List.length_append, length_padded, List.length_append] at hblocks
    simp only [List.length_singleton] at hblocks
    omega

/-- Member after member, up to the two blocks of zeros. -/
theorem readRecords?_members {members : List Member} {blocks : List Bytes}
    (hencode : members.map Member.encode = blocks.map .ok) (hfits : ∀ m ∈ members, m.Fits)
    (hfuel : (blocks.flatten ++ trailer).length ≤ blockSize * fuel) :
    readRecords? fuel none (blocks.flatten ++ trailer) = some (members.map Member.listed) := by
  induction members generalizing blocks fuel with
  | nil =>
      obtain rfl : blocks = [] := List.map_eq_nil_iff.1 hencode.symm
      cases fuel with
      | zero => simp [trailer, blockSize] at hfuel
      | succ fuel =>
          rw [List.flatten_nil, List.nil_append, readRecords?, if_pos ⟨rfl, rfl⟩]
          rfl
  | cons m members ih =>
      cases blocks with
      | nil => simp at hencode
      | cons block blocks =>
          simp only [List.map_cons, List.cons.injEq] at hencode
          have hrest : 2 * blockSize ≤ (blocks.flatten ++ trailer).length := by
            simp [trailer]
          rw [List.flatten_cons, List.append_assoc] at hfuel ⊢
          obtain ⟨fuel', hfuel', hread⟩ :=
            readRecords?_member (hfits m List.mem_cons_self) hencode.1 hrest hfuel
          rw [hread, ih hencode.2 (fun m hm => hfits m (List.mem_cons_of_mem _ hm)) hfuel']
          rfl

/-- **What was written is what is found.** -/
theorem read?_members {members : List Member} {blocks : List Bytes}
    (hencode : members.map Member.encode = blocks.map .ok) (hfits : ∀ m ∈ members, m.Fits) :
    read? (blocks.flatten ++ trailer) = some (members.map Member.listed) := by
  refine readRecords?_members hencode hfits ?_
  have := Nat.div_add_mod (blocks.flatten ++ trailer).length blockSize
  have := Nat.mod_lt (blocks.flatten ++ trailer).length (show 0 < blockSize by decide)
  rw [Nat.mul_add]
  omega

end Bootstrap.Tar
