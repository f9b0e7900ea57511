import QueryBook.Text.WordChar

/-!
# Placeholders

A placeholder is a colon followed by a name. A colon that follows another colon or a word
character opens none, so that `x::date` and `12:30` hold no placeholder. The name begins
with an ASCII letter or an underscore and runs on through all word characters.
-/

namespace QueryBook.Placeholder

open Text

/-- Whether a colon may open a placeholder after the given character, or at the start. -/
def opensAfter : Option Char → Bool
  | none => true
  | some c => c != ':' && !isWordChar c

/-- The placeholder name that `c :: cs` begins with, when `before` is the character ahead. -/
def at? (before : Option Char) (c : Char) (cs : List Char) : Option (List Char) :=
  if c == ':' && opensAfter before && cs.head?.any startsName then some (cs.takeWhile isWordChar)
  else none

/-- The names of all placeholders of a text that follows the character `before`, in order of
appearance and as often as they appear. -/
def occurrences (before : Option Char) : List Char → List (List Char)
  | [] => []
  | c :: cs => (at? before c cs).toList ++ occurrences (some c) cs

/-- The distinct placeholder names of a text, in order of first appearance. -/
def names (cs : List Char) : List String :=
  ((occurrences none cs).map String.ofList).eraseDups

end QueryBook.Placeholder

namespace QueryBook

/-- The distinct placeholder names of a query, without the colon. -/
def findPlaceholders (sql : String) : List String :=
  Placeholder.names sql.toList

example : findPlaceholders "a = :a AND x::int < :_b1 OR t12:30 = :a" = ["a", "_b1"] := by
  decide

end QueryBook
