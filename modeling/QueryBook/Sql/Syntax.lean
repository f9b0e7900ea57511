import QueryBook.Text.WordChar

/-!
# Statements

The syntax of SELECT statements: expressions, queries, and the clauses of a select. Parentheses
are part of the syntax, and keywords have one spelling, so that a statement has one printed
form. Comments are kept with what they are printed at: behind an expression, behind the operator
of two operands, or before a clause.

What has a spelling of its own but no meaning here, such as `a AT TIME ZONE b` or the rows of a
window, is a phrase: expressions and words in a row.
-/

namespace QueryBook.Sql

/-- A name as written, or a placeholder that stands for one. -/
inductive Name where
  | plain (s : String)
  | quoted (s : String)
  /-- The placeholder `:s`. -/
  | bound (s : String)
  /-- The placeholder `?`. -/
  | anonymous
  deriving DecidableEq, Repr

namespace Name

/-- Whether a text is a name without quotes: an ASCII letter or underscore, word characters, and
perhaps a line feed at the end. -/
def isPlain : List Char → Bool
  | [] => false
  | c :: cs =>
    Text.startsName c &&
      match cs.dropWhile Text.isWordChar with
      | [] | ['\n'] => true
      | _ => false

/-- The name with a text, which is quoted unless it can be written without quotes. -/
def ofText (cs : List Char) : Name :=
  if isPlain cs then .plain (String.ofList cs) else .quoted (String.ofList cs)

end Name

/-- Constants that are written as words. -/
inductive Constant where
  | null
  | true
  | false
  deriving DecidableEq, Repr

/-- Operators between two operands. -/
inductive BinaryOp where
  /-- The value of a parameter, by its sign `:=`. -/
  | assign
  /-- The value of a parameter, by its sign `=>`. -/
  | argument
  /-- What a parameter leads to. -/
  | leadsTo
  | or
  | xor
  | and
  | equal
  | unequal
  | less
  | lessEqual
  | greater
  | greaterEqual
  /-- The test against a constant such as `NULL`. -/
  | is
  | isDistinct
  | isNotDistinct
  | like
  | notLike
  | ilike
  | notIlike
  | glob
  | similar
  /-- The character that escapes others in a pattern. -/
  | escape
  | overlaps
  | overlapsArray
  | extendsLeft
  | extendsRight
  | bitAnd
  | bitOr
  | bitXor
  | shiftLeft
  | shiftRight
  | concat
  | add
  | subtract
  | remainder
  | collate
  | multiply
  | divide
  | distance
  | hasKey
  | path
  | pathText
  /-- The bounds of a slice. -/
  | slice
  deriving DecidableEq, Repr

/-- Operators before one operand. -/
inductive UnaryOp where
  | negative
  | complement
  | not
  deriving DecidableEq, Repr

/-- The direction that a sort key asks for. -/
inductive Direction where
  | ascending
  | descending
  deriving DecidableEq, Repr

/-- A part of a select with the comments before it. -/
structure Clause (α : Type) where
  comments : List String
  body : α
  deriving DecidableEq, Repr

/-- A further source of a select. `words` are the words before `JOIN`; a source without words and
without a test stands behind a comma. -/
structure JoinOf (ε κ : Type) where
  comments : List String
  words : List String
  source : κ
  on? : Option ε
  /-- The columns that the matched rows share. -/
  shared : List ε
  deriving DecidableEq, Repr

/-- A named query in front of a select: its name, perhaps with columns, and words before its
parentheses. -/
structure CommonTable (ε κ : Type) where
  name : ε
  words : List String
  query : κ
  deriving DecidableEq, Repr

/-- The named queries in front of a select. -/
structure With (ε κ : Type) where
  comments : List String
  isRecursive : Bool
  tables : List (CommonTable ε κ)
  deriving DecidableEq, Repr

/-- What stands behind the sources of a query. -/
structure ClausesOf (ε κ : Type) where
  joins : List (JoinOf ε κ)
  /-- Sources that depend on those before them. -/
  laterals : List κ
  where? : Option (Clause ε)
  groupBy? : Option (Clause ε)
  having? : Option (Clause ε)
  /-- How rows are spread and sorted among workers, each clause with its words. -/
  spreads : List ε
  windows : List ε
  qualify? : Option ε
  orderBy? : Option (Clause ε)
  limit? : Option (Clause ε)
  offset? : Option ε
  /-- A limit in its other spelling, which stands behind the offset. -/
  fetch? : Option ε
  locks : List ε
  sample? : Option ε
  deriving DecidableEq, Repr

/-- No clauses. -/
def ClausesOf.empty {ε κ : Type} : ClausesOf ε κ :=
  ⟨[], [], none, none, none, [], [], none, none, none, none, none, [], none⟩

/-- A select and its clauses. -/
structure SelectOf (ε κ : Type) where
  with? : Option (With ε κ)
  comments : List String
  /-- Hints behind the first word. -/
  hints : List ε
  distinct? : Option ε
  /-- Words before the projected expressions. -/
  words : List String
  items : List ε
  /-- The table that the rows are put into, perhaps with words before it. -/
  into? : Option (Clause κ)
  source? : Option (Clause κ)
  clauses : ClausesOf ε κ
  deriving DecidableEq, Repr

/-- A select of some expressions without any clause. -/
def SelectOf.ofItems {ε κ : Type} (items : List ε) : SelectOf ε κ :=
  ⟨none, [], [], none, [], items, none, none, .empty⟩

mutual

/-- Expressions. -/
inductive Expr where
  | name (n : Name)
  /-- The variable that is named behind an at sign. -/
  | variable (e : Expr)
  | star
  | number (digits : String)
  | text (s : String)
  /-- A string with a letter before it. -/
  | marked (mark : Char) (s : String)
  | constant (c : Constant)
  /-- A word that is no name. -/
  | word (s : String)
  /-- A type; `isNested` tells whether its arguments are types. -/
  | type (name : String) (arguments : List Expr) (isNested : Bool)
  /-- What is found under a name in what stands before the point. -/
  | field (owner member : Expr)
  /-- What is found at an index. -/
  | item (owner : Expr) (indices : List Expr)
  | binary (op : BinaryOp) (left right : Expr)
  | unary (op : UnaryOp) (e : Expr)
  | between (e low high : Expr)
  | oneOf (e choices : Expr)
  | call (function : Name) (arguments : List Expr)
  /-- A cast; `isTry` tells whether it may fail. -/
  | cast (isTry : Bool) (e type : Expr)
  | case (subject : Option Expr) (branches : List (Expr × Expr)) (otherwise : Option Expr)
  /-- A sort key; `nullsFirst` tells where nulls are. -/
  | sorted (key : Expr) (direction : Option Direction) (nullsFirst : Bool)
  | aliased (e label : Expr)
  /-- An expression between parentheses. -/
  | group (e : Expr)
  /-- Expressions between parentheses. -/
  | tuple (es : List Expr)
  /-- Expressions between commas. -/
  | listed (es : List Expr)
  /-- Expressions and words in a row. -/
  | phrase (es : List Expr)
  /-- Expressions with semicolons between them. -/
  | series (es : List Expr)
  | query (q : Query)
  | commented (e : Expr) (comments : List String)

/-- Queries, and whatever else gives rows. -/
inductive Query where
  | select (s : SelectOf Expr Query)
  /-- A table, or another expression that gives rows. -/
  | expr (e : Expr)
  | values (rows : List Expr)
  /-- A query between parentheses. -/
  | nested (q : Query)
  /-- Queries combined by the operation that the words name, with the comments before it. -/
  | combined (words comments : List String) (left right : Query)
  | aliased (q : Query) (label : Expr)
  /-- A query other than a select with clauses behind it. -/
  | refined (q : Query) (clauses : ClausesOf Expr Query)
  /-- A query other than a select with named queries in front of it. -/
  | with (w : With Expr Query) (q : Query)
  | commented (q : Query) (comments : List String)

end

/-- A select and its clauses. -/
abbrev Select := SelectOf Expr Query

/-- The clauses of a query. -/
abbrev Clauses := ClausesOf Expr Query

/-- A further source of a query. -/
abbrev Join := JoinOf Expr Query

namespace Expr

/-- A name without quotes. -/
def ofName (s : String) : Expr :=
  .name (.plain s)

/-- A call of a function by its plain name. -/
def calling (function : String) (arguments : List Expr) : Expr :=
  .call (.plain function) arguments

/-- Words before an expression. -/
def led (words : String) (e : Expr) : Expr :=
  .phrase [.word words, e]

/-- Words behind an expression. -/
def trailed (e : Expr) (words : String) : Expr :=
  .phrase [e, .word words]

/-- Words between two expressions. -/
def related (left : Expr) (words : String) (right : Expr) : Expr :=
  .phrase [left, .word words, right]

/-- An expression with more comments. -/
def annotated (comments : List String) (e : Expr) : Expr :=
  match comments, e with
  | [], _ => e
  | _, .commented e before => .commented e (before ++ comments)
  | _, _ => .commented e comments

/-- An expression without its comments. -/
def bare : Expr → Expr
  | .commented e _ => e
  | e => e

/-- The comments of an expression. -/
def comments : Expr → List String
  | .commented _ comments => comments
  | _ => []

/-- Whether an expression is a call, perhaps with what follows it. -/
def isCall : Expr → Bool
  | .call .. | .cast .. | .case .. => true
  | .phrase (.star :: _) => false
  | .phrase _ => true
  | _ => false

/-- Whether an expression is a number. -/
def isNumber : Expr → Bool
  | .number _ => true
  | _ => false

/-- The number of parts of the path to a column, if the expression is one: at most four names
with points between them, the last of which may be any expression other than a call. -/
def columnParts? : Expr → Option Nat
  | .name (.plain _) | .name (.quoted _) => some 1
  | .field owner member =>
    match columnParts? owner with
    | some n => if n < 4 && !member.isCall then some (n + 1) else none
    | none => none
  | _ => none

/-- Whether the expression is the path to a column. -/
def isColumn (e : Expr) : Bool :=
  e.bare.columnParts?.isSome

end Expr

namespace Query

/-- A query with more comments. -/
def annotated (comments : List String) (q : Query) : Query :=
  match comments, q with
  | [], _ => q
  | _, .commented q before => .commented q (before ++ comments)
  | _, _ => .commented q comments

end Query

/-- What a statement is: a select, or anything else. -/
inductive Statement where
  | select (s : Select)
  | other

end QueryBook.Sql
