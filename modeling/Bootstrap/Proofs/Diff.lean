import Bootstrap.Diff
import Bootstrap.Proofs.Text.Quoting

/-!
# What a comparison tells

Both texts can be read back from the report on them, piece by piece, and so nothing that parts two
texts is ever lost in it: not a blank at the end of a line, not a line end that one text lacks, not
a mark that stands inside a text.

* `inExpected_pair`, `inActual_pair` — the pieces, by induction on the two lists of lines;
* `read?_print` — the report, read line by line;
* `exists_marks_iff` — a marked line tells that the texts differ;
* `render_loses_nothing` — **the report keeps both texts**, whatever characters are shown.
-/

namespace Bootstrap.Diff

variable {shown : Char → Bool} {expected actual : List (List Char)}

/-! ### The pieces -/

/-- The pieces of the expected text are its lines, in order. -/
theorem inExpected_pair (expected actual : List (List Char)) :
    (pair expected actual).flatMap Line.inExpected = expected.flatten := by
  induction expected, actual using pair.induct with
  | case1 => simp [pair]
  | case2 e expected ih => simp [pair, Line.inExpected, ih]
  | case3 a actual ih => simp [pair, Line.inExpected, ih]
  | case4 expected e actual ih => simp [pair, Line.inExpected, ih]
  | case5 e expected a actual hne ih => simp [pair, hne, Line.inExpected, ih]

/-- The pieces of the actual text are its lines, in order. -/
theorem inActual_pair (expected actual : List (List Char)) :
    (pair expected actual).flatMap Line.inActual = actual.flatten := by
  induction expected, actual using pair.induct with
  | case1 => simp [pair]
  | case2 e expected ih => simpa [pair, Line.inActual] using ih
  | case3 a actual ih => simp [pair, Line.inActual, ih]
  | case4 expected e actual ih => simp [pair, Line.inActual, ih]
  | case5 e expected a actual hne ih => simp [pair, hne, Line.inActual, ih]

theorem inExpected_compare (expected actual : List Char) :
    (compare expected actual).flatMap Line.inExpected = expected := by
  rw [compare, inExpected_pair, Text.flatten_linesOf]

theorem inActual_compare (expected actual : List Char) :
    (compare expected actual).flatMap Line.inActual = actual := by
  rw [compare, inActual_pair, Text.flatten_linesOf]

/-- A text compared with itself has nothing but common lines. -/
theorem pair_self (lines : List (List Char)) : pair lines lines = lines.map Line.same := by
  induction lines with
  | nil => simp [pair]
  | cons line lines ih => rw [pair, if_pos rfl, ih, List.map_cons]

/-! ### The print -/

namespace Line

/-- A printed line is read back. -/
theorem read?_print (shown : Char → Bool) (line : Line) : read? (line.print shown) = some line := by
  cases line <;> simp [print, mark, text, read?, Text.Quoted.decode?_encode]

/-- A printed line is one line. -/
theorem newline_not_mem_print (shown : Char → Bool) (line : Line) : '\n' ∉ line.print shown := by
  have htext := Text.Quoted.newline_not_mem_encode shown line.text
  cases line <;> simpa [print, mark] using htext

theorem print_ne_nil (shown : Char → Bool) (line : Line) : line.print shown ≠ [] := by
  cases line <;> simp [print, mark]

end Line

/-- Cut at its line ends, a comparison in print is its lines in print. -/
theorem splitOn_print {lines : List Line} (hlines : lines ≠ []) :
    (print shown lines).splitOn '\n' = lines.map (Line.print shown) := by
  have hprinted : ∀ printed ∈ lines.map (Line.print shown), '\n' ∉ printed := by
    intro printed hmem
    obtain ⟨line, _, rfl⟩ := List.mem_map.mp hmem
    exact Line.newline_not_mem_print shown line
  exact List.splitOn_intercalate '\n' hprinted (by simpa using hlines)

/-- **A comparison in print is read back**, whatever is shown. -/
theorem read?_print (shown : Char → Bool) (lines : List Line) :
    read? (print shown lines) = some lines := by
  cases lines with
  | nil => simp [read?, print]
  | cons line lines =>
      have hsome : (print shown (line :: lines)).isEmpty = false := by
        have hline := line.print_ne_nil shown
        cases lines <;> simp [print, List.intercalate, hline]
      have hread : ∀ more : List Line,
          (more.map (Line.print shown)).mapM Line.read? = some more := by
        intro more
        induction more with
        | nil => rfl
        | cons line more ih => simp [Line.read?_print, ih]
      rw [read?, hsome, if_neg (by decide), splitOn_print (List.cons_ne_nil line lines), hread]

/-! ### Marked lines -/

/-- A line of a report is marked when it tells of a piece that only one text has. -/
def Marks (line : List Char) : Prop := ['-', ' '] <+: line ∨ ['+', ' '] <+: line

/-- The mark stands in front of a printed line. -/
theorem marks_print_iff {line : Line} : Marks (line.print shown) ↔ ∀ piece, line ≠ .same piece := by
  cases line <;> simp [Marks, Line.print, Line.mark]

/-- The marked lines of a comparison in print are those of the pieces that one text lacks. -/
theorem exists_marks_print_iff (lines : List Line) :
    (∃ line ∈ (print shown lines).splitOn '\n', Marks line) ↔
      ∃ line ∈ lines, ∀ piece, line ≠ .same piece := by
  by_cases hlines : lines = []
  · subst hlines
    simp [print, Marks]
  · rw [splitOn_print hlines]
    simp only [List.mem_map, exists_exists_and_eq_and, marks_print_iff]

/-- Where every piece is common, the texts are the same. -/
theorem inExpected_eq_inActual {lines : List Line}
    (hsame : ∀ line ∈ lines, ∃ piece, line = .same piece) :
    lines.flatMap Line.inExpected = lines.flatMap Line.inActual := by
  apply List.flatMap_congr
  intro line hmem
  obtain ⟨piece, rfl⟩ := hsame line hmem
  rfl

/-- **Some line is marked if and only if the texts differ.** -/
theorem exists_marks_iff (shown : Char → Bool) (expected actual : List Char) :
    (∃ line ∈ (print shown (compare expected actual)).splitOn '\n', Marks line) ↔
      expected ≠ actual := by
  rw [exists_marks_print_iff]
  constructor
  · rintro ⟨line, hmem, hline⟩ rfl
    rw [compare, pair_self] at hmem
    obtain ⟨piece, _, rfl⟩ := List.mem_map.mp hmem
    exact hline piece rfl
  · intro hne
    by_contra hnone
    push Not at hnone
    apply hne
    calc expected = (compare expected actual).flatMap Line.inExpected :=
          (inExpected_compare expected actual).symm
      _ = (compare expected actual).flatMap Line.inActual := inExpected_eq_inActual hnone
      _ = actual := inActual_compare expected actual

/-! ### The report -/

/-- The report on two texts, showing the characters that `shown` allows. -/
def renderWith (shown : Char → Bool) (expected actual : String) : String :=
  String.ofList (print shown (compare expected.toList actual.toList))

theorem render_eq_renderWith : render = renderWith Text.isShown := rfl

/-- What a report on two texts must keep. -/
structure LosesNothing (report : String → String → String) : Prop where
  /-- Read line by line, it gives both texts, the pieces of each in order. -/
  pieces : ∀ expected actual, ∃ lines, read? (report expected actual).toList = some lines ∧
    lines.flatMap Line.inExpected = expected.toList ∧ lines.flatMap Line.inActual = actual.toList
  /-- Two pairs of texts with the same report are the same pair. -/
  injective : ∀ expected actual expected' actual',
    report expected actual = report expected' actual' → expected = expected' ∧ actual = actual'
  /-- It has a marked line if and only if the texts differ. -/
  marked : ∀ expected actual,
    (∃ line ∈ (report expected actual).toList.splitOn '\n', Marks line) ↔ expected ≠ actual

/-- Whatever is shown, the lines of a report are those of the comparison. -/
theorem read?_renderWith (shown : Char → Bool) (expected actual : String) :
    read? (renderWith shown expected actual).toList =
      some (compare expected.toList actual.toList) := by
  rw [renderWith, String.toList_ofList, read?_print]

/-- A report that is read back as the comparison determines both texts. -/
theorem eq_of_renderWith_eq {expected actual expected' actual' : String}
    (hreport : renderWith shown expected actual = renderWith shown expected' actual') :
    expected = expected' ∧ actual = actual' := by
  have hlines : compare expected.toList actual.toList =
      compare expected'.toList actual'.toList := by
    have hread := read?_renderWith shown expected actual
    rw [hreport, read?_renderWith] at hread
    exact (Option.some.inj hread).symm
  constructor
  · apply String.toList_injective
    rw [← inExpected_compare expected.toList actual.toList, hlines, inExpected_compare]
  · apply String.toList_injective
    rw [← inActual_compare expected.toList actual.toList, hlines, inActual_compare]

/-- A report has a marked line if and only if the texts differ. -/
theorem renderWith_marks_iff (shown : Char → Bool) (expected actual : String) :
    (∃ line ∈ (renderWith shown expected actual).toList.splitOn '\n', Marks line) ↔
      expected ≠ actual := by
  rw [renderWith, String.toList_ofList, exists_marks_iff, ne_eq, ne_eq, String.toList_inj]

/-- **A report loses nothing** of the two texts, whatever characters are shown as themselves. -/
theorem render_loses_nothing :
    LosesNothing render ∧ ∀ shown : Char → Bool, LosesNothing (renderWith shown) := by
  have hall : ∀ shown : Char → Bool, LosesNothing (renderWith shown) := by
    intro shown
    constructor
    · intro expected actual
      exact ⟨_, read?_renderWith shown expected actual, inExpected_compare _ _,
        inActual_compare _ _⟩
    · intro expected actual expected' actual' hreport
      exact eq_of_renderWith_eq hreport
    · exact renderWith_marks_iff shown
  refine ⟨?_, hall⟩
  rw [render_eq_renderWith]
  exact hall Text.isShown

end Bootstrap.Diff
