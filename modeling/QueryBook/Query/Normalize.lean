import QueryBook.Text.Blank

/-!
# Normal form of a query text

A query is cached with every run of blanks collapsed to one space, without blanks at its
ends, and without the semicolon that ends it. Nothing else is touched: blanks and semicolons
inside literals and comments are treated like all others.
-/

namespace QueryBook.Normalize

open Text

/-- The text with each run of blanks replaced by one space; `inRun` says that the blank
before the text is already represented. -/
def collapse (inRun : Bool) : List Char → List Char
  | [] => []
  | c :: cs =>
    if isBlank c then
      if inRun then collapse true cs else ' ' :: collapse true cs
    else c :: collapse false cs

/-- The text without a semicolon at its end and the blanks before that. -/
def dropTerminator (cs : List Char) : List Char :=
  if cs.getLast? = some ';' then trimRight cs.dropLast else cs

/-- The normal form of a query text. -/
def normal (cs : List Char) : List Char :=
  dropTerminator (trim (collapse false cs))

end QueryBook.Normalize

namespace QueryBook

/-- The normal form of a query text. -/
def normalize (sql : String) : String :=
  String.ofList (Normalize.normal sql.toList)

example : normalize "\n SELECT\t1 ;\n" = "SELECT 1" := by decide +kernel
example : normalize "a; ;" = "a;" := by decide +kernel

end QueryBook
