/-!
# Delimited texts

A text between two delimiters, with each closing delimiter inside it written twice. SQL
writes string literals and quoted names this way.
-/

namespace QueryBook.Text

/-- The text with every `close` written twice. -/
def doubled (close : Char) : List Char → List Char
  | [] => []
  | c :: cs => if c = close then c :: c :: doubled close cs else c :: doubled close cs

/-- The text between its delimiters. -/
def delimited (opening close : Char) (cs : List Char) : List Char :=
  opening :: doubled close cs ++ [close]

@[simp] theorem doubled_nil (close : Char) : doubled close [] = [] := rfl

theorem doubled_append (close : Char) (cs ds : List Char) :
    doubled close (cs ++ ds) = doubled close cs ++ doubled close ds := by
  induction cs with
  | nil => rfl
  | cons c cs ih => by_cases h : c = close <;> simp [doubled, h, ih]

end QueryBook.Text
