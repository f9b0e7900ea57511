import QueryBook.Outcome
import QueryBook.Sql.Condition

/-!
# Editing selects

A select can be given other columns or another condition; everything else of it is printed as it
was. An empty statement and an empty edit leave the text as it is, without reading it.
-/

namespace QueryBook

open Sql

/-- The dialect of a description. -/
def dialectOf (description : String) : Except Failure Dialect :=
  (Dialect.ofDescription description).mapError fun
    | .unknownName name => .unknownDialect name
    | .unknownSetting name => .unknownSetting name

/-- The select that a text is; a text that is none is reported. -/
def readSelect (dialect sql : String) : Outcome (Dialect × Select) := do
  let d ← .ofExcept (dialectOf dialect)
  match parseSelect d sql with
  | .ok s => return (d, s)
  | .error .unparsable =>
    .report .unparsable
    .raise .parse
  | .error .notASelect =>
    .report .notASelect
    .raise (.notASelect (some sql))

/-- A select with other projected expressions. -/
def Sql.SelectOf.project (s : Select) (columns : List Expr) : Select :=
  { s with items := columns }

/-- A select with another condition. -/
def Sql.SelectOf.filter (s : Select) (condition : Option Expr) : Select :=
  { s with clauses := { s.clauses with where? := condition.map fun e => ⟨[], e⟩ } }

/-- The statement with its projected expressions replaced by columns. -/
def replaceColumns (dialect sql : String) (columns : List String) : Outcome String :=
  if sql.isEmpty || columns.isEmpty then pure sql
  else do
    let (d, s) ← readSelect dialect sql
    let columns ← .ofExcept (columns.mapM columnOf)
    .report .columnsReplaced
    return printSelect d (s.project columns)

/-- The statement with its condition replaced by equalities of columns and values. -/
def replaceConditions (dialect sql : String) (conditions : List (String × Value)) :
    Outcome String :=
  if sql.isEmpty || conditions.isEmpty then pure sql
  else do
    let (d, s) ← readSelect dialect sql
    let condition ← .ofExcept (buildCondition conditions)
    .report .conditionsReplaced
    return printSelect d (s.filter condition)

end QueryBook
