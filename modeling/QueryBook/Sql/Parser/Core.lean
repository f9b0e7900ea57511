import QueryBook.Sql.Dialect
import QueryBook.Sql.Syntax
import QueryBook.Sql.Token

/-!
# Reading from tokens

A parser reads from the front of the tokens and moves on, or fails, which no later step mends
except `attempt`. Where nothing of the wanted kind is found, the answer is `none` and the parser
stays where it is.

The comments of the last token stay pending until an expression is made, which takes them; those
that nothing has taken when the next token is read are dropped.
-/

namespace QueryBook.Sql

/-- Where a parser is: the tokens ahead, the last one that was read, and those of its comments
that nothing has taken. -/
structure Cursor where
  rest : List Token
  last? : Option Token
  pending : List String

namespace Cursor

/-- Before the first token. -/
def start (ts : List Token) : Cursor :=
  ⟨ts, none, []⟩

/-- Behind the next token, if there is one. -/
def next (c : Cursor) : Cursor :=
  match c.rest with
  | [] => c
  | t :: ts => ⟨ts, some t, t.comments⟩

/-- Back from another place: the comments before it are pending again. -/
def again (c : Cursor) : Cursor :=
  { c with pending := (c.last?.map Token.comments).getD [] }

end Cursor

/-- Reads something from the front of the tokens. -/
abbrev Parser (α : Type) := StateT Cursor Option α

namespace Parser

/-! ## Moving -/

/-- The lexeme ahead. -/
def ahead? : Parser (Option Lexeme) :=
  return (← get).rest.head?.map Token.lexeme

/-- The lexeme behind the one ahead. -/
def second? : Parser (Option Lexeme) :=
  return (← get).rest.tail.head?.map Token.lexeme

/-- The lexeme that was read last. -/
def last? : Parser (Option Lexeme) :=
  return (← get).last?.map Token.lexeme

/-- What was written for the lexeme that was read last. -/
def lastContent : Parser String :=
  return ((← last?).map Lexeme.content).getD ""

/-- Reads one token. -/
def advance : Parser Unit :=
  modify Cursor.next

/-- Goes back to an earlier place. -/
def retreat (c : Cursor) : Parser Unit := do
  unless (← get).rest.length = c.rest.length do
    set c.again

/-- The comments of the last token that nothing has taken. -/
def pending : Parser (List String) :=
  return (← get).pending

/-- Takes the comments of the last token. -/
def taken : Parser (List String) :=
  modifyGet fun c => (c.pending, { c with pending := [] })

/-- The same as a parser, with its failures as finding nothing; then it stays where it is. -/
def attempt {α : Type} (p : Parser (Option α)) : Parser (Option α) := fun c =>
  match p c with
  | some (some a, c) => some (some a, c)
  | some (none, after) =>
    some (none, if after.rest.length = c.rest.length then after else c.again)
  | none => some (none, c.again)

/-- Whether a parser would find something; it stays where it is. -/
def finds {α : Type} (p : Parser (Option α)) : Parser Bool := do
  let c ← get
  let found := (← attempt p).isSome
  retreat c
  return found

/-- What must be there. -/
def required {α : Type} (p : Parser (Option α)) : Parser α := do
  let some a ← p | failure
  return a

/-! ## Words and punctuation -/

/-- Whether the lexeme ahead is of a kind. -/
def sees (is : Lexeme → Bool) : Parser Bool :=
  return (← ahead?).any is

/-- Reads the token ahead if it is of a kind. -/
def accept (is : Lexeme → Bool) : Parser Bool := do
  if ← sees is then
    advance
    return true
  else return false

/-- Reads a keyword of the kind. -/
def keyword (kind : String) : Parser Bool :=
  accept (·.isKeyword kind)

/-- Reads a keyword of one of the kinds, which is the answer. -/
def keywordOf (kinds : List String) : Parser (Option String) := do
  let l? ← ahead?
  match kinds.find? fun kind => l?.any (·.isKeyword kind) with
  | some kind =>
    advance
    return some kind
  | none => return none

/-- Reads punctuation. -/
def symbol (mark : String) : Parser Bool :=
  accept (·.isSymbol mark)

/-- Reads punctuation that must be there. -/
def expectSymbol (mark : String) : Parser Unit := do
  unless ← symbol mark do failure

/-- Reads words, all of them or none; a word may be a keyword or not. -/
def reads (words : List String) : Parser Bool := do
  let c ← get
  for word in words do
    unless ← accept (·.reads word) do
      retreat c
      return false
  return true

/-- Reads one of some words, which is the answer. -/
def readsOf (words : List String) : Parser (Option String) := do
  match ← ahead? with
  | none => return none
  | some l =>
    match words.find? l.reads with
    | some word =>
      advance
      return some word
    | none => return none

/-- Reads two lexemes, both of them or none. -/
def acceptBoth (isFirst isSecond : Lexeme → Bool) : Parser Bool := do
  if (← sees isFirst) && (← second?).any isSecond then
    advance
    advance
    return true
  else return false

/-! ## Repetition -/

/-- Repeats a step until it finds nothing; running out of the number is a failure. -/
def repeatUpTo {α : Type} (step : α → Parser (Option α)) : Nat → α → Parser α
  | 0, _ => failure
  | n + 1, a => do
    match ← step a with
    | none => return a
    | some a => repeatUpTo step n a

/-- Repeats a step, which reads a token at least, until it finds nothing. -/
def iterate {α : Type} (step : α → Parser (Option α)) (a : α) : Parser α := do
  repeatUpTo step ((← get).rest.length + 2) a

/-- Everything that a reader finds in a row. -/
def many {α : Type} (p : Parser (Option α)) : Parser (List α) := do
  let found ← iterate (fun found => return (← p).map (· :: found)) []
  return found.reverse

/-- A list between commas, of which there are at most as many as the number says. Where nothing
is found, there is no element; the comments of a comma belong to the element before it. -/
def separatedUpTo {α : Type} (element : Parser (Option α)) (annotate : List String → α → α) :
    Nat → Parser (List α)
  | 0 => failure
  | n + 1 => do
    let first ← element
    unless ← symbol "," do return first.toList
    let first ← match first with
      | none => pure []
      | some a => pure [annotate (← taken) a]
    return first ++ (← separatedUpTo element annotate n)

/-- A list between commas. -/
def separated (element : Parser (Option Expr)) : Parser (List Expr) := do
  separatedUpTo element Expr.annotated ((← get).rest.length + 2)

/-- A list that is not empty. -/
def someOf {α : Type} (p : Parser (List α)) : Parser (List α) := do
  let found ← p
  if found.isEmpty then failure else return found

/-- What stands between parentheses. -/
def wrapped {α : Type} (p : Parser α) : Parser α := do
  expectSymbol "("
  let a ← p
  expectSymbol ")"
  return a

/-! ## Expressions -/

/-- An expression with the comments of the last token. -/
def made (e : Expr) : Parser Expr :=
  return e.annotated (← taken)

/-- An expression with comments, or else with those of the last token. -/
def madeWith (comments : List String) (e : Expr) : Parser Expr :=
  if comments.isEmpty then made e else return e.annotated comments

/-- Reads the closing parenthesis behind an expression, which gets its comments. -/
def closed (e : Expr) : Parser Expr := do
  expectSymbol ")"
  made e

/-- Operands with operators of one level between them, which nest to the left. An operator
needs both operands. -/
def chain (op? : Lexeme → Option BinaryOp) (operand : Parser (Option Expr)) :
    Parser (Option Expr) := do
  let left ← operand
  iterate (fun left => do
    let some op := (← ahead?).bind op? | return none
    advance
    let comments ← pending
    let some left := left | failure
    let right ← required operand
    return some (some (← madeWith comments (.binary op left right)))) left

/-- The operator that punctuation stands for. -/
def symbolOp? (table : List (String × BinaryOp)) : Lexeme → Option BinaryOp
  | .symbol s => table.lookup s
  | _ => none

/-- The operator that a keyword stands for. -/
def keywordOp? (table : List (String × BinaryOp)) : Lexeme → Option BinaryOp
  | .keyword kind _ => table.lookup kind
  | _ => none

end Parser

/-- Where a query is read: on its own, without parentheses; as a source, where a table can stand
between parentheses; or as an operand of a set operation, which reads no further ones. -/
inductive QueryPlace where
  | alone
  | source
  | operand
  deriving DecidableEq, Repr

/-- The readers that the grammar comes back to: of expressions, from those with an alias down
through the levels of operators to operands, and of queries and their parts. -/
structure Grammar where
  dialect : Dialect
  item : Parser (Option Expr)
  assignment : Parser (Option Expr)
  disjunction : Parser (Option Expr)
  equality : Parser (Option Expr)
  bitwise : Parser (Option Expr)
  term : Parser (Option Expr)
  factor : Parser (Option Expr)
  unary : Parser (Option Expr)
  column : Parser (Option Expr)
  primary : Parser (Option Expr)
  /-- A type; the argument tells whether an operand may stand in its place. -/
  type : Bool → Parser (Option Expr)
  query : QueryPlace → Parser (Option Query)
  setOperations : Query → Parser Query
  clauses : Query → Parser Query
  table : Parser (Option Query)
  statement : Parser (Option Query)

/-- The grammar that reads nothing. -/
def Grammar.nothing (d : Dialect) : Grammar where
  dialect := d
  item := failure
  assignment := failure
  disjunction := failure
  equality := failure
  bitwise := failure
  term := failure
  factor := failure
  unary := failure
  column := failure
  primary := failure
  type _ := failure
  query _ := failure
  setOperations _ := failure
  clauses _ := failure
  table := failure
  statement := failure

end QueryBook.Sql
