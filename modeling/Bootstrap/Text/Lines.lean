/-!
# Lines with their ends

A text is cut behind every line end; only the last line may lack one.
-/

namespace Bootstrap.Text

/-- The lines of a text, each with its line end. -/
def linesOf : List Char → List (List Char)
  | [] => []
  | c :: rest =>
      if c = '\n' then [c] :: linesOf rest
      else
        match linesOf rest with
        | [] => [[c]]
        | line :: lines => (c :: line) :: lines

/-- Cutting loses nothing. -/
theorem flatten_linesOf (text : List Char) : (linesOf text).flatten = text := by
  induction text with
  | nil => rfl
  | cons c rest ih =>
      simp only [linesOf]
      split
      · simp [ih]
      · split
        · next h => simp [h] at ih; simp [← ih]
        · next h => simp [h] at ih; simp [ih]

end Bootstrap.Text
