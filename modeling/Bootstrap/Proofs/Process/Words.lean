import Bootstrap.Process.Invocation
import Mathlib.Data.List.Basic

/-!
# Command lines read back

A command line is made for people, and still nothing of it is lost: the blanks that part words
are the only ones outside of quotes, and a quote inside a word cannot be taken for the end of
the word.  So a reader gets back the very words, and two invocations with different words never
look alike.

* `readWords_flatMap_quoteChar`, `readWords_quoteWord` — one word, up to what stands behind it;
* `wordsOf_ofWords` — a command line, by induction over its words;
* `Invocation.commandLine_unambiguous` — **the words come back from what is shown**.
-/

namespace Bootstrap

namespace CommandLine

variable {word rest : List Char} {place : Place}

theorem not_isBlank_of_isPlain {c : Char} (h : isPlain word = true) (hc : c ∈ word) :
    c ≠ ' ' ∧ c ≠ '\'' := by
  simp only [isPlain, Bool.and_eq_true, Bool.not_eq_true', List.any_eq_false, Bool.or_eq_true,
    beq_iff_eq, not_or] at h
  obtain ⟨⟨hblank, hquote⟩, _⟩ := h.2 c hc
  refine ⟨?_, hquote⟩
  rintro rfl
  exact hblank (by decide)

/-- Characters that mean nothing special are taken as they are. -/
theorem readWords_of_forall {read : List Char} (h : ∀ c ∈ word, c ≠ ' ' ∧ c ≠ '\'') :
    readWords .outside read (word ++ rest) = readWords .outside (word.reverse ++ read) rest := by
  induction word generalizing read with
  | nil => rfl
  | cons c word ih =>
      obtain ⟨hblank, hquote⟩ := h c List.mem_cons_self
      rw [List.cons_append, readWords, if_neg hblank, if_neg hquote,
        ih fun c' hc' => h c' (List.mem_cons_of_mem c hc'), List.reverse_cons, List.append_assoc,
        List.singleton_append]

/-- A quoted word is taken to its end, through all the quotes in it. -/
theorem readWords_flatMap_quoteChar (word rest read : List Char) :
    readWords .inside read (word.flatMap quoteChar ++ '\'' :: rest) =
      readWords .behind (word.reverse ++ read) rest := by
  induction word generalizing read with
  | nil => simp [readWords]
  | cons c word ih =>
      rw [List.flatMap_cons, List.append_assoc, List.reverse_cons, List.append_assoc,
        List.singleton_append, ← ih]
      by_cases hquote : c = '\''
      · -- The quotation ends, the escaped quote is read, and the next one goes on.
        subst hquote
        simp [quoteChar, readWords]
      · simp [quoteChar, readWords, hquote]

/-- **One word.**  Behind it the reader is outside of quotes, or directly behind a closing one. -/
theorem readWords_quoteWord (word : List Char) :
    ∃ place, place ≠ .inside ∧ ∀ rest,
      readWords .outside [] (quoteWord word ++ rest) = readWords place word.reverse rest := by
  cases hplain : isPlain word with
  | true =>
      refine ⟨.outside, by decide, ?_⟩
      intro rest
      rw [quoteWord, if_pos hplain, readWords_of_forall fun c => not_isBlank_of_isPlain hplain,
        List.append_nil]
  | false =>
      refine ⟨.behind, by decide, ?_⟩
      intro rest
      have hquoted : quoteWord word ++ rest = '\'' :: (word.flatMap quoteChar ++ '\'' :: rest) := by
        simp [quoteWord, hplain]
      rw [hquoted, readWords, if_neg (by decide), if_pos rfl, readWords_flatMap_quoteChar,
        List.append_nil]

/-- A blank outside of quotes parts two words. -/
theorem readWords_blank (hplace : place ≠ .inside) (read rest : List Char) :
    readWords place read (' ' :: rest) = read.reverse :: readWords .outside [] rest := by
  cases place with
  | inside => exact absurd rfl hplace
  | outside => simp [readWords]
  | behind => simp [readWords]

theorem ofWords_cons_cons (word next : List Char) (more : List (List Char)) :
    ofWords (word :: next :: more) = quoteWord word ++ ' ' :: ofWords (next :: more) := by
  simp [ofWords, List.intercalate]

/-- **Reading a command line** gives its words. -/
theorem wordsOf_ofWords (word : List Char) (more : List (List Char)) :
    wordsOf (ofWords (word :: more)) = word :: more := by
  induction more generalizing word with
  | nil =>
      obtain ⟨place, _, hread⟩ := readWords_quoteWord word
      have hword := hread []
      rw [List.append_nil] at hword
      simp only [wordsOf, ofWords, List.map_cons, List.map_nil, List.intercalate_singleton, hword]
      cases place <;> simp [readWords]
  | cons next more ih =>
      obtain ⟨place, hplace, hread⟩ := readWords_quoteWord word
      rw [wordsOf, ofWords_cons_cons, hread, readWords_blank hplace, List.reverse_reverse]
      exact congrArg (word :: ·) (ih next)

end CommandLine

namespace Invocation

/-- **What is shown of an invocation tells its words**, the program and every argument, so two that
look alike have the same. -/
theorem commandLine_unambiguous :
    (∀ i : Invocation, (CommandLine.wordsOf i.commandLine.toList).map String.ofList =
      i.program.text :: i.arguments) ∧
    ∀ i j : Invocation, i.commandLine = j.commandLine ↔
      i.program = j.program ∧ i.arguments = j.arguments := by
  have hread : ∀ i : Invocation, (CommandLine.wordsOf i.commandLine.toList).map String.ofList =
      i.program.text :: i.arguments := by
    intro i
    unfold commandLine words
    rw [String.toList_ofList, List.map_cons, CommandLine.wordsOf_ofWords, ← List.map_cons,
      List.map_map]
    simp
  refine ⟨hread, ?_⟩
  intro i j
  constructor
  · intro hline
    have hwords : i.program.text :: i.arguments = j.program.text :: j.arguments := by
      rw [← hread, ← hread, hline]
    obtain ⟨htext, harguments⟩ := List.cons.inj hwords
    refine ⟨?_, harguments⟩
    cases hi : i.program
    cases hj : j.program
    rw [hi, hj] at htext
    exact congrArg Path.mk htext
  · rintro ⟨hprogram, harguments⟩
    unfold commandLine words
    rw [hprogram, harguments]

end Invocation

end Bootstrap
