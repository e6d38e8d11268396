import Bootstrap.Proofs.Artifact.Naming
import Bootstrap.Proofs.FileSystem.Absolute

/-!
# When artifacts collide

The name of a file does not say where the name of the entry point ends:

    entry point    generation    file
    x              2             x-2.ofta
    x-2            none          x-2.ofta

Nothing else makes one file of two artifacts of a package.  A number holds no dash, so
the last dash of a name stands in front of the number, and a number is written in one
way.  Two generations of one entry point never collide, even where its name has slashes
in it: their paths have one parent and end in different names.

* `SharesStem` — the two ways to the same name;
* `artifactStem_eq_iff` — there is no third;
* `ArtifactStore.resolve_apart` — **different generations lie apart**;
* `ArtifactStore.resolve_collides_by_name` — **artifacts collide by name only**.
-/

namespace Bootstrap

/-! ### Names -/

/-- The artifacts go by one name: they are the same, or one is the canonical artifact of an entry
point that is called like a generation of the other. -/
def SharesStem (b₁ : String) (v₁ : Option Nat) (b₂ : String) (v₂ : Option Nat) : Prop :=
  (b₁ = b₂ ∧ v₁ = v₂) ∨
    (v₁ = none ∧ ∃ n, v₂ = some n ∧ b₁ = b₂ ++ "-" ++ toString n) ∨
    (v₂ = none ∧ ∃ n, v₁ = some n ∧ b₂ = b₁ ++ "-" ++ toString n)

/-- What stands behind the last mark of a text can be told from the text. -/
theorem append_mark_inj {c : Char} {cs ds xs ys : List Char} (hxs : c ∉ xs) (hys : c ∉ ys)
    (h : cs ++ c :: xs = ds ++ c :: ys) : cs = ds ∧ xs = ys := by
  have hcut := congrArg (List.splitOn c) h
  rw [List.splitOn_append_cons_self, List.splitOn_append_cons_self, List.splitOn_eq_singleton hxs,
    List.splitOn_eq_singleton hys] at hcut
  obtain ⟨_, hlast⟩ := List.append_inj' hcut rfl
  obtain rfl : xs = ys := by simpa using hlast
  exact ⟨List.append_cancel_right h, rfl⟩

theorem dash_not_mem_toDigits (n : Nat) : '-' ∉ Nat.toDigits 10 n := by
  intro hmem
  have hdigit := Nat.isDigit_of_mem_toDigits (by decide) (by decide) hmem
  revert hdigit
  decide

/-- A name and the number behind it can be told from both together. -/
theorem numbered_eq_iff {b₁ b₂ : String} {m n : Nat} :
    b₁ ++ "-" ++ toString m = b₂ ++ "-" ++ toString n ↔ b₁ = b₂ ∧ m = n := by
  constructor
  · intro h
    have hchars : b₁.toList ++ '-' :: Nat.toDigits 10 m = b₂.toList ++ '-' :: Nat.toDigits 10 n := by
      simpa [String.toList_append] using congrArg String.toList h
    obtain ⟨hname, hdigits⟩ :=
      append_mark_inj (dash_not_mem_toDigits m) (dash_not_mem_toDigits n) hchars
    have htail : generationTail (some m) = generationTail (some n) := by
      simp [generationTail, hdigits]
    exact ⟨String.toList_inj.1 hname, Option.some.inj (generationTail_inj htail)⟩
  · rintro ⟨rfl, rfl⟩
    rfl

/-- **Two artifacts have one name in two ways only.** -/
theorem artifactStem_eq_iff {b₁ b₂ : String} {v₁ v₂ : Option Nat} :
    artifactStem b₁ v₁ = artifactStem b₂ v₂ ↔ SharesStem b₁ v₁ b₂ v₂ := by
  unfold SharesStem
  cases v₁ with
  | none =>
      cases v₂ with
      | none => simp [artifactStem]
      | some n => simp [artifactStem]
  | some m =>
      cases v₂ with
      | none => simp [artifactStem, eq_comm]
      | some n =>
          simp only [artifactStem, numbered_eq_iff]
          simp

/-! ### Behind the last slash -/

namespace Path

variable {p q : Path} {up last : List Char}

theorem eq_iff_chars : p = q ↔ p.chars = q.chars := by
  cases p
  cases q
  simp [chars, String.toList_inj]

theorem fileName?_of_ends {first : List PathStep} {name : String} (h : p.Ends first name) :
    p.fileName? = some name := by
  unfold fileName?
  rw [getLast?_components h]
  exact congrArg some String.ofList_toList

/-- Paths of the same components that end in names end in the same name. -/
theorem name_eq_of_sameComponents {first second : List PathStep} {name other : String}
    (hp : p.Ends first name) (hq : q.Ends second other) (h : p.sameComponents q = true) :
    name = other := by
  refine Decidable.byContradiction fun hne => ?_
  rw [sameComponents_eq_false hp hq hne] at h
  cases h

/-- The parent of a path is decided in front of its last slash. -/
theorem parent?_of_chars (hchars : p.chars = up ++ '/' :: last) (hslash : '/' ∉ last)
    (hsilent : isSilent last = false) :
    p.parent? = some (ofStretches ((up ++ ['/']).head? == some '/')
      (trimSilent (up.splitOn '/').reverse).reverse) := by
  have hstretches : p.stretches = up.splitOn '/' ++ last :: [] := by
    unfold stretches
    rw [hchars, List.splitOn_append_cons_self, List.splitOn_eq_singleton hslash]
  rw [parent?_of_stretches hstretches (by simp) hsilent, if_neg (List.splitOn_ne_nil _ _),
    isAbsolute_of_chars hchars]

end Path

/-! ### Files -/

namespace ArtifactStore

open FileSystem

/-- What ends in a tail stays in a path. -/
theorem file_not_silent (front : List Char) (v : Option Nat) :
    Path.isSilent (front ++ generationTail v) = false := by
  obtain ⟨hne, hdot, _⟩ := generationTail_ne front v
  rw [Bool.eq_false_iff]
  intro hsilent
  exact (Path.isSilent_iff.1 hsilent).elim hne hdot

/-- The files of the entry points of a package lie side by side, if their names have no slash. -/
theorem relative_chars_of_slash_free (s : ArtifactStore) (package : Path) :
    ∃ up, ∀ (b : String) (v : Option Nat), '/' ∉ b.toList →
      (s.resolve ⟨package, b⟩ v).relative.chars = up ++ '/' :: (b.toList ++ generationTail v) := by
  obtain ⟨up, hup⟩ := lead_buildDirectory package
  refine ⟨up, fun b v hslash => ?_⟩
  have hfile : (⟨artifactStem b v ++ "." ++ artifactExtension⟩ : Path) =
      Path.ofChars (b.toList ++ generationTail v) :=
    Path.eq_iff_chars.2 ((artifactStem_toList b v).trans (Path.chars_ofChars _).symm)
  have hplain := (Path.plain_of_noSlash (slash_not_mem_file hslash v)).1
  have hjoin := Path.chars_join (package.push buildDirectory)
    ⟨artifactStem b v ++ "." ++ artifactExtension⟩
  rw [hfile, hplain, if_neg (by decide), Path.chars_ofChars, hup, List.append_assoc, ← hfile] at hjoin
  exact hjoin

/-- One text is the file of two artifacts exactly if they have one name. -/
theorem file_eq_iff {b₁ b₂ : String} {v₁ v₂ : Option Nat} :
    b₁.toList ++ generationTail v₁ = b₂.toList ++ generationTail v₂ ↔ SharesStem b₁ v₁ b₂ v₂ := by
  rw [← artifactStem_toList, ← artifactStem_toList, String.toList_inj, ← artifactStem_eq_iff]
  simp [← String.toList_inj, String.toList_append]

/-- Two paths lie side by side under different names, as texts and on every file system. -/
structure Apart (p q : Path) : Prop where
  /-- The paths have one parent and end in different names. -/
  siblings : ∃ parent n m, p.parent? = some parent ∧ q.parent? = some parent ∧
    p.fileName? = some n ∧ q.fileName? = some m ∧ n ≠ m
  /-- The entries that they name are in one directory and have different names. -/
  entries : ∀ (fs : FileSystem) cwd d e n m, fs.Names cwd p d n → fs.Names cwd q e m →
    d = e ∧ n ≠ m

/-- **Different generations lie apart**, whatever their entry point is called. -/
theorem resolve_apart (s : ArtifactStore) (key : ArtifactKey) {v w : Option Nat} (hne : v ≠ w) :
    Apart (s.resolve key v).path (s.resolve key w).path where
  siblings := by
    obtain ⟨up, front, hfront, hchars⟩ := resolve_chars s key
    obtain ⟨first, front', absolute, hends⟩ := resolve_ends s key
    have hparent : ∀ u, (s.resolve key u).path.parent? = some _ := fun u =>
      Path.parent?_of_chars (hchars u) (slash_not_mem_file hfront u) (file_not_silent front u)
    exact ⟨_, _, _, hparent v, hparent w, Path.fileName?_of_ends (hends v).1,
      Path.fileName?_of_ends (hends w).1, hne ∘ file_inj front'⟩
  entries := by
    intro fs cwd d e n m hv hw
    obtain ⟨first, front, absolute, hends⟩ := resolve_ends s key
    obtain ⟨_, _, _, hends', _⟩ := names_iff.1 hv
    obtain ⟨_, rfl⟩ := hends'.unique (hends v).1
    have hsibling := hv.sibling (hends v).1 (hends w).1 ((hends w).2.trans (hends v).2.symm)
      (names_iff.1 hw).1
    obtain ⟨rfl, rfl⟩ := hsibling.unique hw
    exact ⟨rfl, hne ∘ file_inj front⟩

/-- **Artifacts collide by name only.**  The paths of two artifacts of a package, seen from the root
of the store, are the same text, and the same components, exactly if the artifacts go by one name;
the entry points may be called anything that has no slash in it.  And different generations of one
entry point, whatever it is called, are different entries of one directory. -/
theorem resolve_collides_by_name (s : ArtifactStore) :
    (∀ package b₁ b₂ v₁ v₂, '/' ∉ b₁.toList → '/' ∉ b₂.toList →
      ((s.resolve ⟨package, b₁⟩ v₁).relative = (s.resolve ⟨package, b₂⟩ v₂).relative ↔
          SharesStem b₁ v₁ b₂ v₂) ∧
        ((s.resolve ⟨package, b₁⟩ v₁).relative.sameComponents
            (s.resolve ⟨package, b₂⟩ v₂).relative = true ↔ SharesStem b₁ v₁ b₂ v₂)) ∧
      ∀ key v w, v ≠ w → Apart (s.resolve key v).path (s.resolve key w).path := by
  refine ⟨?_, fun key v w hne => resolve_apart s key hne⟩
  intro package b₁ b₂ v₁ v₂ hslash₁ hslash₂
  obtain ⟨up, hchars⟩ := relative_chars_of_slash_free s package
  have htext : (s.resolve ⟨package, b₁⟩ v₁).relative = (s.resolve ⟨package, b₂⟩ v₂).relative ↔
      SharesStem b₁ v₁ b₂ v₂ := by
    rw [Path.eq_iff_chars, hchars b₁ v₁ hslash₁, hchars b₂ v₂ hslash₂, ← file_eq_iff]
    simp
  have hends : ∀ b v, '/' ∉ b.toList → Path.Ends (s.resolve ⟨package, b⟩ v).relative _
      (String.ofList (b.toList ++ generationTail v)) := fun b v hslash =>
    Path.ends_of_chars (hchars b v hslash) (slash_not_mem_file hslash v)
      (generationTail_ne _ v).1 (generationTail_ne _ v).2.1 (generationTail_ne _ v).2.2
  refine ⟨htext, fun hsame => ?_, fun hshares => ?_⟩
  · have hname := Path.name_eq_of_sameComponents (hends b₁ v₁ hslash₁) (hends b₂ v₂ hslash₂) hsame
    exact file_eq_iff.1 (String.ofList_inj.1 hname)
  · rw [htext.2 hshares]
    exact beq_self_eq_true _

/-- An entry point that is called like the second generation of another one has its file, and the
generations of an entry point at an absolute path lie apart. -/
theorem sampleStore_collides :
    ((⟨⟨"/work"⟩⟩ : ArtifactStore).resolve ⟨⟨"p"⟩, "x-2"⟩ none).relative =
        ((⟨⟨"/work"⟩⟩ : ArtifactStore).resolve ⟨⟨"p"⟩, "x"⟩ (some 2)).relative ∧
      Apart ((⟨⟨"/work"⟩⟩ : ArtifactStore).resolve ⟨⟨"p"⟩, "/up/.."⟩ none).path
        ((⟨⟨"/work"⟩⟩ : ArtifactStore).resolve ⟨⟨"p"⟩, "/up/.."⟩ (some 10)).path := by
  obtain ⟨hcollide, hapart⟩ := resolve_collides_by_name ⟨⟨"/work"⟩⟩
  refine ⟨(hcollide _ _ _ _ _ (by decide) (by decide)).1.2 ?_, hapart _ _ _ (by decide)⟩
  exact .inr (.inl ⟨rfl, 2, rfl, by decide⟩)

end ArtifactStore

end Bootstrap
