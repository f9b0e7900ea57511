import QueryBook.Sql.Lexer
import QueryBook.Sql.Parser.Query

/-!
# Reading statements

A text holds statements with semicolons between them. What is wanted is a single select; the
text may also hold something else that is valid, or nothing valid.
-/

namespace QueryBook.Sql

/-- The readers for some tokens in a dialect. -/
def grammarOf (d : Dialect) (ts : List Token) : Grammar :=
  .ofTokens d (tokenize d) ts

namespace Parser

/-- The tokens between semicolons. A semicolon at the end ends the last statement; one with
comments is a statement of its own. -/
def chunks : List Token → List (List Token)
  | [] => [[]]
  | t :: ts =>
    if t.isSymbol ";" then
      let own := if t.comments.isEmpty then [] else [[t]]
      let more := if ts.isEmpty then [] else chunks ts
      [] :: (own ++ more)
    else
      match chunks ts with
      | [] => [[t]]
      | chunk :: more => (t :: chunk) :: more

/-- Whether the tokens begin with the word of another statement than a query. -/
def beginsOther (ts : List Token) : Bool :=
  match ts with
  | [] => false
  | t :: ts =>
    t.isSymbol ";" || Keyword.statements.any t.isKeyword ||
      t.lexeme.reads "IF" && !ts.head?.any (·.isSymbol "(")

/-- One statement; what is neither a select nor another query is an expression. -/
def wholeStatement (d : Dialect) (ts : List Token) : Option Statement :=
  if beginsOther ts then some .other
  else
    match Parser.statement (grammarOf d ts) (.start ts) with
    | some (some q, c) =>
      if !c.rest.isEmpty then none
      else
        match q with
        | .select s => some (.select s)
        | _ => some .other
    | _ => none

/-- The only statement of the tokens; several statements are not a select, and no statement is
one if the first is empty. -/
def statements (d : Dialect) (ts : List Token) : Option Statement :=
  match chunks ts with
  | [only] => wholeStatement d only
  | first :: more =>
    if first.isEmpty then none
    else do
      let _ ← wholeStatement d first
      let _ ← (more.filter fun chunk => !chunk.isEmpty).mapM (wholeStatement d)
      return .other
  | [] => none

end Parser

/-- Why a text is not a select. -/
inductive SelectFault where
  /-- The text is not valid SQL. -/
  | unparsable
  /-- The text is valid, but not a single select. -/
  | notASelect
  deriving DecidableEq, Repr

/-- The select that a text is. -/
def parseSelect (d : Dialect) (sql : String) : Except SelectFault Select :=
  match (tokenize d sql).bind (Parser.statements d) with
  | none => .error .unparsable
  | some .other => .error .notASelect
  | some (.select s) => .ok s

end QueryBook.Sql
