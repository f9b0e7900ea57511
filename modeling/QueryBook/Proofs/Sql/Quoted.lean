import QueryBook.Sql.Lexer

/-!
# Reading quoted texts

A text between quotes, with each quote in it doubled, is read as the text that it was
(`quoted_doubled`).
-/

namespace QueryBook.Sql.Lexer

open Text

variable {cs : List Char}

theorem quoted_cons {close x : Char} (hx : x ≠ close) (cs : List Char) :
    quoted close (x :: cs) = (quoted close cs).map fun r => (x :: r.1, r.2) := by
  cases cs <;> simp [quoted, hx]

/-- The closing quote is the first one that is not doubled. -/
theorem quoted_doubled {close : Char} (hcs : cs.head? ≠ some close) (content : List Char) :
    quoted close (doubled close content ++ close :: cs) = some (content, cs) := by
  induction content with
  | nil =>
    cases cs with
    | nil => simp [quoted]
    | cons x cs =>
      have hx : x ≠ close := by simpa using hcs
      simp [quoted, hx]
  | cons x content ih =>
    by_cases hx : x = close
    · subst hx
      simp [doubled, quoted, ih]
    · simp [doubled, hx, quoted_cons hx, ih]

end QueryBook.Sql.Lexer
