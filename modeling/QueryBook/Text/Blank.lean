import QueryBook.Text.CharTable

/-!
# Blank characters

Blanks are the characters of Unicode's white space property together with the four ASCII
separators U+001C to U+001F. A zero-width space is no blank. Runs of blanks are what
normalization collapses and what trimming removes.
-/

namespace QueryBook.Text

/-- The code points of the blank characters. -/
def blanks : CharTable :=
  [(0x9, 0xD), (0x1C, 0x20), (0x85, 0x85), (0xA0, 0xA0), (0x1680, 0x1680), (0x2000, 0x200A),
   (0x2028, 0x2029), (0x202F, 0x202F), (0x205F, 0x205F), (0x3000, 0x3000)]

/-- A blank separates words and carries no meaning of its own. -/
def isBlank (c : Char) : Bool :=
  blanks.contains c

/-- A space or a tab: the only blanks that may stand inside a marker line. -/
def isGap (c : Char) : Bool :=
  c == ' ' || c == '\t'

/-- The text without the blanks at its end. -/
def trimRight (cs : List Char) : List Char :=
  (cs.reverse.dropWhile isBlank).reverse

/-- The text without the blanks at either end. -/
def trim (cs : List Char) : List Char :=
  trimRight (cs.dropWhile isBlank)

/-- Every white space character of the core library is blank. -/
theorem isBlank_of_isWhitespace {c : Char} (h : c.isWhitespace = true) : isBlank c = true := by
  simp only [Char.isWhitespace, Bool.or_eq_true, decide_eq_true_eq] at h
  rcases h with ((rfl | rfl) | rfl) | rfl <;> decide

end QueryBook.Text
