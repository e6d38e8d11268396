import Bootstrap.Artifact
import Bootstrap.Proofs.FileSystem.Place

/-!
# Where artifacts lie

The generations of an artifact differ in what stands behind the name of the entry point
and in nothing else.  So they are entries of one directory, whatever the root, the
package and the entry point are called, and no two generations are one entry.

* `generationTail_inj` — different generations have different tails;
* `ArtifactStore.resolve_chars` — their paths agree up to the tail;
* `ArtifactStore.names_generation` — their paths name different entries of one directory.
-/

namespace Bootstrap

open FileSystem

/-- What stands behind the name of the entry point in the file name of an artifact. -/
def generationTail : Option Nat → List Char
  | none => '.' :: artifactExtension.toList
  | some n => '-' :: Nat.toDigits 10 n ++ '.' :: artifactExtension.toList

theorem artifactStem_toList (binary : String) (variant : Option Nat) :
    (artifactStem binary variant ++ "." ++ artifactExtension).toList =
      binary.toList ++ generationTail variant := by
  cases variant with
  | none => simp [artifactStem, generationTail, String.toList_append]
  | some n =>
      simp [artifactStem, generationTail, String.toList_append]

/-- Different generations have different tails. -/
theorem generationTail_inj {v w : Option Nat} (h : generationTail v = generationTail w) : v = w := by
  cases v with
  | none =>
      cases w with
      | none => rfl
      | some n => simp [generationTail] at h
  | some m =>
      cases w with
      | none => simp [generationTail] at h
      | some n =>
          have hdigits : Nat.toDigits 10 m = Nat.toDigits 10 n := by
            simpa [generationTail] using h
          have hnumber : m = n := calc
            m = Nat.ofDigitChars 10 (Nat.toDigits 10 m) 0 := Nat.ofDigitChars_ten_toDigits.symm
            _ = Nat.ofDigitChars 10 (Nat.toDigits 10 n) 0 := by rw [hdigits]
            _ = n := Nat.ofDigitChars_ten_toDigits
          rw [hnumber]

theorem slash_not_mem_generationTail (v : Option Nat) : '/' ∉ generationTail v := by
  have hextension : '/' ∉ '.' :: artifactExtension.toList := by decide
  cases v with
  | none => exact hextension
  | some n =>
      have hdigits : '/' ∉ Nat.toDigits 10 n := by
        intro hmem
        have := Nat.isDigit_of_mem_toDigits (by decide) (by decide) hmem
        revert this
        decide
      simp only [generationTail, List.cons_append, List.mem_cons, List.mem_append]
      rintro (h | h | h)
      · cases h
      · exact hdigits h
      · exact hextension (List.mem_cons.2 h)

/-- No name that ends in a tail is a step that stays or goes up. -/
theorem generationTail_ne (front : List Char) (v : Option Nat) :
    front ++ generationTail v ≠ [] ∧ front ++ generationTail v ≠ ['.'] ∧
      front ++ generationTail v ≠ ['.', '.'] := by
  have hlast : (front ++ generationTail v).getLast? = some 'a' := by
    cases v <;> simp [generationTail, artifactExtension, List.getLast?_cons]
  refine ⟨?_, ?_, ?_⟩ <;>
    · intro h
      rw [h] at hlast
      cases hlast

/-- No tail puts a slash into a name. -/
theorem slash_not_mem_file {front : List Char} (hfront : '/' ∉ front) (v : Option Nat) :
    '/' ∉ front ++ generationTail v := by
  rw [List.mem_append]
  rintro (h | h)
  · exact hfront h
  · exact slash_not_mem_generationTail v h

/-- The generations of one entry point have different files. -/
theorem file_inj (front : List Char) {v w : Option Nat}
    (h : String.ofList (front ++ generationTail v) = String.ofList (front ++ generationTail w)) :
    v = w := by
  have hfile : front ++ generationTail v = front ++ generationTail w := by
    simpa using congrArg String.toList h
  exact generationTail_inj (List.append_cancel_left hfile)

/-- A text with a slash has a last one. -/
theorem exists_last_slash {cs : List Char} (h : '/' ∈ cs) :
    ∃ up front, cs = up ++ '/' :: front ∧ '/' ∉ front := by
  obtain ⟨front, up, hcs, hfront⟩ := List.eq_append_cons_of_mem (List.mem_reverse.2 h)
  refine ⟨up.reverse, front.reverse, ?_, by simpa using hfront⟩
  rw [← List.reverse_reverse cs, hcs]
  simp

/-- A path that is joined to another one keeps what stands behind its last slash. -/
theorem Path.join_chars_of_slash {left right : Path} {up last : List Char}
    (h : right.chars = up ++ '/' :: last) :
    (left.join right).chars =
      (if (up ++ ['/']).head? == some '/' then up else left.lead ++ up) ++ '/' :: last := by
  rw [Path.chars_join, Path.isAbsolute_of_chars h, h]
  split <;> simp

namespace ArtifactStore

/-- The name of a file of artifacts is put behind the slash of the build directory. -/
theorem lead_buildDirectory (package : Path) :
    ∃ up, (package.push buildDirectory).lead = up ++ ['/'] := by
  refine (Path.lead_cases _).resolve_left ?_
  rintro ⟨hnil, _⟩
  have hpush := Path.chars_join package ⟨buildDirectory⟩
  have hplain : (⟨buildDirectory⟩ : Path).isAbsolute = false := by decide
  rw [hplain, if_neg (by decide)] at hpush
  have hbuild := (List.append_eq_nil_iff.1 (hpush.symm.trans hnil)).2
  cases hbuild

/-- The paths of all generations agree up to the tail, seen from the root of the store. -/
theorem relative_chars (s : ArtifactStore) (key : ArtifactKey) :
    ∃ up front, '/' ∉ front ∧
      ∀ v, (s.resolve key v).relative.chars = up ++ '/' :: (front ++ generationTail v) := by
  -- Whether the name of the entry point begins at the root does not depend on the generation.
  have hfile : ∀ v, (⟨artifactStem key.binary v ++ "." ++ artifactExtension⟩ : Path).chars =
      key.binary.toList ++ generationTail v := artifactStem_toList key.binary
  have habsolute : ∀ v, (⟨artifactStem key.binary v ++ "." ++ artifactExtension⟩ : Path).isAbsolute =
      (key.binary.toList.head? == some '/') := by
    intro v
    unfold Path.isAbsolute
    rw [hfile]
    cases key.binary.toList with
    | nil => cases v <;> rfl
    | cons c rest => rfl
  have hrelative : ∀ v, (s.resolve key v).relative.chars =
      (if key.binary.toList.head? == some '/' then [] else (key.package.push buildDirectory).lead) ++
        key.binary.toList ++ generationTail v := by
    intro v
    have hjoin := Path.chars_join (key.package.push buildDirectory)
      ⟨artifactStem key.binary v ++ "." ++ artifactExtension⟩
    rw [habsolute, hfile] at hjoin
    refine Eq.trans hjoin ?_
    split <;> simp
  have hslash : '/' ∈
      (if key.binary.toList.head? == some '/' then [] else (key.package.push buildDirectory).lead) ++
        key.binary.toList := by
    split
    · rename_i hhead
      exact List.mem_of_head? (eq_of_beq hhead)
    · obtain ⟨up, hup⟩ := lead_buildDirectory key.package
      rw [hup]
      simp
  obtain ⟨up, front, hcut, hfront⟩ := exists_last_slash hslash
  refine ⟨up, front, hfront, fun v => ?_⟩
  rw [hrelative, hcut]
  simp

/-- The paths of all generations agree up to the tail. -/
theorem resolve_chars (s : ArtifactStore) (key : ArtifactKey) :
    ∃ up front, '/' ∉ front ∧
      ∀ v, (s.resolve key v).path.chars = up ++ '/' :: (front ++ generationTail v) := by
  obtain ⟨up, front, hfront, hrelative⟩ := relative_chars s key
  exact ⟨_, front, hfront, fun v => Path.join_chars_of_slash (hrelative v)⟩

/-- The path of a generation ends in a name, and only that name depends on the generation. -/
theorem resolve_ends (s : ArtifactStore) (key : ArtifactKey) :
    ∃ first front absolute, ∀ v,
      (s.resolve key v).path.Ends first (String.ofList (front ++ generationTail v)) ∧
        (s.resolve key v).path.isAbsolute = absolute := by
  obtain ⟨up, front, hfront, hchars⟩ := resolve_chars s key
  refine ⟨(up.splitOn '/').filterMap PathStep.ofStretch, front, (up ++ ['/']).head? == some '/',
    fun v => ⟨?_, Path.isAbsolute_of_chars (hchars v)⟩⟩
  obtain ⟨hne, hdot, hdots⟩ := generationTail_ne front v
  exact Path.ends_of_chars (hchars v) (slash_not_mem_file hfront v) hne hdot hdots

/-- **Generations are different entries of one directory.**  Where one of them leads somewhere, all
that do are named in the same directory. -/
theorem names_generation {fs : FileSystem} {cwd place : Location} {s : ArtifactStore}
    {key : ArtifactKey} {v : Option Nat} (h : fs.reach cwd (s.resolve key v).path = .ok place) :
    ∃ parent, ∃ names : Option Nat → String, (∀ u w, names u = names w → u = w) ∧
      ∀ w place, fs.reach cwd (s.resolve key w).path = .ok place →
        fs.Names cwd (s.resolve key w).path parent (names w) ∧
          ∃ links, Trail fs links parent [.into (names w)] place := by
  obtain ⟨first, front, absolute, hends⟩ := resolve_ends s key
  obtain ⟨parent, _, hnames, _⟩ := names_of_reach (hends v).1 h
  refine ⟨parent, fun w => String.ofList (front ++ generationTail w), fun _ _ => file_inj front, ?_⟩
  intro w place hreach
  have hsibling := hnames.sibling (hends v).1 (hends w).1
    ((hends w).2.trans (hends v).2.symm) (reach_eq_ok_iff.1 hreach).1
  obtain ⟨parent', links, hnames', htrail⟩ := names_of_reach (hends w).1 hreach
  obtain ⟨rfl, _⟩ := hsibling.unique hnames'
  exact ⟨hsibling, links, htrail⟩

end ArtifactStore

end Bootstrap
