import QueryBook.Error
import QueryBook.Sql.Parser.Statement
import QueryBook.Text.Split

/-!
# Column names

A column is named by a text that is read as an operand: a name, a path, a call, a literal. Any
other text is a path whose parts are taken as they are and quoted unless they are plain names.
-/

namespace QueryBook.Sql

namespace Column

/-- A path from its first name on. -/
def path (first : Name) (more : List Name) : Expr :=
  more.foldl (fun owner n => .field owner (.name n)) (.name first)

/-- The path whose parts stand between the points of a text. -/
def ofParts (cs : List Char) : Expr :=
  match Text.split '.' cs with
  | [] => .name (.ofText [])
  | part :: parts => path (.ofText part) (parts.map Name.ofText)

/-- The column that the tokens are, if there are any. -/
def ofTokens? (ts : List Token) : Option (Option Expr) :=
  match Parser.column (grammarOf .generic ts) (.start ts) with
  | some (e?, c) => if c.rest.isEmpty then some e? else none
  | none => none

/-- The columns that the tokens are, which may have semicolons between them. -/
def ofChunks? (ts : List Token) : Option Expr := do
  match (← (Parser.chunks ts).mapM ofTokens?) with
  | [] | none :: _ => none
  | some e :: more =>
    match more.filterMap id with
    | [] => some e
    | es => some (.series (e :: es))

end Column

/-- The column that a text names. -/
def columnOf (s : String) : Except Failure Expr :=
  match tokenize .generic s with
  | none => .error .unclosedColumn
  | some ts => .ok ((Column.ofChunks? ts).getD (Column.ofParts s.toList))

end QueryBook.Sql
