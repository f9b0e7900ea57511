import QueryBook.Number.Basic

/-!
# Values

What a caller may pass as a parameter or compare a column with. Texts and numbers have a
literal form in SQL; a value of any other kind is kept only as its kind, which the errors
name.
-/

namespace QueryBook

/-- The kinds of value that have no literal form. -/
inductive Kind where
  | null
  | boolean
  | list
  | mapping
  | bytes
  | tuple
  | set
  | date
  | datetime
  deriving DecidableEq, Repr

/-- The name of a kind in messages. -/
def Kind.label : Kind → String
  | null => "NoneType"
  | boolean => "bool"
  | list => "list"
  | mapping => "dict"
  | bytes => "bytes"
  | tuple => "tuple"
  | set => "set"
  | date => "date"
  | datetime => "datetime"

/-- A value handed to the library. -/
inductive Value where
  | text (s : String)
  | number (n : Number)
  | other (k : Kind)
  deriving DecidableEq, Repr

end QueryBook
