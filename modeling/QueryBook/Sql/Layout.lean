import QueryBook.Sql.Token

/-!
# Laying out lexemes on a line

A printed statement is one line of lexemes and comments. Each of them says whether a space
stands before it; before the first of a line there is none.
-/

namespace QueryBook.Sql

/-- What a printed line is made of. -/
inductive Mark where
  | lexeme (l : Lexeme)
  | comment (text : String)
  /-- The placeholder of a name. -/
  | placeholder (name : String)
  /-- A placeholder without a name. -/
  | anonymous
  deriving DecidableEq, Repr

/-- A mark and whether a space stands before it. -/
structure Part where
  gap : Bool
  mark : Mark
  deriving DecidableEq, Repr

namespace Part

/-- A word with a space before it. -/
def word (s : String) : Part :=
  ⟨true, .lexeme (.word s)⟩

/-- Punctuation with a space before it. -/
def symbol (s : String) : Part :=
  ⟨true, .lexeme (.symbol s)⟩

/-- Punctuation that stands directly behind what is before it. -/
def joined (s : String) : Part :=
  ⟨false, .lexeme (.symbol s)⟩

/-- A comment with a space before it. -/
def comment (text : String) : Part :=
  ⟨true, .comment text⟩

end Part

namespace Layout

/-- The parts without a space before the first of them. -/
def tight : List Part → List Part
  | [] => []
  | p :: ps => { p with gap := false } :: ps

/-- Groups of parts with punctuation behind each but the last. -/
def separated (mark : String) : List (List Part) → List Part
  | [] => []
  | [group] => group
  | group :: groups => group ++ Part.joined mark :: separated mark groups

/-- Groups of parts with commas between them. -/
def commas : List (List Part) → List Part :=
  separated ","

/-- Parts between parentheses, the opening one as it is given. -/
def between (opening : Part) (ps : List Part) : List Part :=
  opening :: tight ps ++ [Part.joined ")"]

/-- Comments in order; empty ones are left out. -/
def comments (cs : List String) : List Part :=
  (cs.filter (· != "")).map Part.comment

/-- The text of a comment with every delimiter of comments in it broken by a space. -/
def broken : List Char → List Char
  | '*' :: '/' :: cs => '*' :: ' ' :: '/' :: broken cs
  | '/' :: '*' :: cs => '/' :: ' ' :: '*' :: broken cs
  | c :: cs => c :: broken cs
  | [] => []

/-- The text of a comment with a blank at both of its ends. -/
def padded (cs : List Char) : List Char :=
  let blankAt (c : Option Char) := if c.all Text.isBlank then [] else [' ']
  blankAt cs.head? ++ cs ++ blankAt cs.getLast?

/-- The written form of a mark. -/
def markChars (d : Dialect) : Mark → List Char
  | .lexeme l => l.chars d
  | .comment text => "/*".toList ++ broken (padded text.toList) ++ "*/".toList
  | .placeholder name => (d.placeholder.1 ++ name ++ d.placeholder.2).toList
  | .anonymous => d.anonymous.toList

/-- The written form of parts behind others. -/
def chars (d : Dialect) : List Part → List Char
  | [] => []
  | p :: ps => (if p.gap then [' '] else []) ++ markChars d p.mark ++ chars d ps

/-- A line in a dialect. -/
def line (d : Dialect) (ps : List Part) : String :=
  String.ofList (chars d (tight ps))

end Layout

end QueryBook.Sql
