import QueryBook.Binding.Placeholder
import QueryBook.Outcome

/-!
# Text clauses

A text clause leaves its values to the database driver. Its bind names are the word runs
behind a colon, unless the colon follows a colon, a word character or a backslash, or the
run is followed by another colon. A backslash before a colon keeps the colon from opening a
bind name and is dropped from the text that is sent.
-/

namespace QueryBook

/-- A query with its bind names, each with the value bound to it, if any. -/
structure TextClause (α : Type) where
  /-- The query as given. -/
  text : String
  /-- The query as sent. -/
  compiled : String
  /-- The bind names in order of first appearance. -/
  binds : List (String × Option α)

namespace TextClause

open Text

/-- Whether a colon may open a bind name after the given character, or at the start. -/
def opensAfter : Option Char → Bool
  | none => true
  | some c => c != ':' && c != '\\' && !isWordChar c

/-- Whether a word run may end before the given character, or at the end. -/
def closesBefore (after : Option Char) : Bool :=
  after != some ':'

/-- The bind name that `c :: cs` begins with, when `before` is the character ahead. -/
def bindAt? (before : Option Char) (c : Char) (cs : List Char) : Option (List Char) :=
  let run := cs.takeWhile isWordChar
  if c == ':' && opensAfter before && !run.isEmpty &&
      closesBefore (cs.dropWhile isWordChar).head? then
    some run
  else none

/-- The bind names of a text that follows the character `before`, as often as they appear. -/
def bindOccurrences (before : Option Char) : List Char → List (List Char)
  | [] => []
  | c :: cs => (bindAt? before c cs).toList ++ bindOccurrences (some c) cs

/-- The distinct bind names of a query, in order of first appearance. -/
def bindNames (sql : String) : List String :=
  ((bindOccurrences none sql.toList).map String.ofList).eraseDups

/-- Whether a backslash before `cs` only keeps a colon from opening a bind name. -/
def escapesColon : List Char → Bool
  | ':' :: cs => closesBefore (cs.dropWhile isWordChar).head?
  | _ => false

/-- The text without the backslashes that only protect a colon. -/
def unescaped : List Char → List Char
  | [] => []
  | c :: cs => if c == '\\' && escapesColon cs then unescaped cs else c :: unescaped cs

end TextClause

/-- The names that no parameter can have, each with the step of binding that takes it; an
earlier step is done first. -/
def TextClause.reserved : List (String × String) :=
  [("self", "TextClause.bindparams"), ("fn", "_generative.<locals>._generative")]

open TextClause in
/-- The text clause of a query with values for its bind names. A value for a reserved name is
refused, and so is one for a name that the query does not have. -/
def bindClause {α : Type} (sql : String) (params : List (String × α)) :
    Except Failure (TextClause α) :=
  let names := bindNames sql
  match reserved.find? fun r => params.any (·.1 == r.1),
      params.find? fun p => !names.contains p.1 with
  | some (name, owner), _ => .error (.reservedParameter owner name)
  | none, some p => .error (.undefinedParameter p.1)
  | none, none =>
    .ok ⟨sql, String.ofList (unescaped sql.toList), names.map fun n => (n, params.lookup n)⟩

end QueryBook
