import QueryBook.Sql.Layout
import QueryBook.Sql.Syntax

/-!
# Printing statements

Every statement has one printed form: a line with single spaces, keywords in capitals, `AS`
before every alias, and the clauses in a fixed order. Parentheses are printed where the syntax
has them, and around a test that is an operand of another kind of test, which would be read in
another way without them.
-/

namespace QueryBook.Sql

open Layout

/-- Some words in a row. -/
def words (ws : List String) : List Part :=
  ws.map Part.word

/-- A name or placeholder. A name that begins with a digit is quoted where it would be read as a
number. -/
def Name.parts (d : Dialect) : Name → List Part
  | plain s =>
    if s.toList.head?.any Char.isDigit && !d.digitNames then [⟨true, .lexeme (.quoted s)⟩]
    else [.word s]
  | quoted s => [⟨true, .lexeme (.quoted s)⟩]
  | bound s => [⟨true, .placeholder s⟩]
  | anonymous => [⟨true, .anonymous⟩]

/-- A constant as a word or a number. -/
def Constant.word (d : Dialect) : Constant → String
  | null => "NULL"
  | true => if d.bitConstants then "1" else "TRUE"
  | false => if d.bitConstants then "0" else "FALSE"

def BinaryOp.parts : BinaryOp → List Part
  | assign => [.symbol ":="]
  | argument => [.symbol "=>"]
  | leadsTo => [.symbol "->"]
  | or => [.word "OR"]
  | xor => [.word "XOR"]
  | and => [.word "AND"]
  | equal => [.symbol "="]
  | unequal => [.symbol "<>"]
  | less => [.symbol "<"]
  | lessEqual => [.symbol "<="]
  | greater => [.symbol ">"]
  | greaterEqual => [.symbol ">="]
  | is => [.word "IS"]
  | isDistinct => words ["IS", "DISTINCT", "FROM"]
  | isNotDistinct => words ["IS", "NOT", "DISTINCT", "FROM"]
  | like => [.word "LIKE"]
  | notLike => words ["NOT", "LIKE"]
  | ilike => [.word "ILIKE"]
  | notIlike => words ["NOT", "ILIKE"]
  | glob => [.word "GLOB"]
  | similar => [.word "SIMILAR TO"]
  | escape => [.word "ESCAPE"]
  | overlaps => [.word "OVERLAPS"]
  | overlapsArray => [.symbol "&&"]
  | extendsLeft => [.symbol "&<"]
  | extendsRight => [.symbol "&>"]
  | bitAnd => [.symbol "&"]
  | bitOr => [.symbol "|"]
  | bitXor => [.symbol "^"]
  | shiftLeft => [.symbol "<<"]
  | shiftRight => [.symbol ">>"]
  | concat => [.symbol "||"]
  | add => [.symbol "+"]
  | subtract => [.symbol "-"]
  | remainder => [.symbol "%"]
  | collate => [.word "COLLATE"]
  | multiply => [.symbol "*"]
  | divide => [.symbol "/"]
  | distance => [.symbol "<->"]
  | hasKey => [.symbol "?"]
  | path => [.symbol "#>"]
  | pathText => [.symbol "#>>"]
  | slice => [.symbol ":"]

/-- Tests, in groups of those that need no parentheses as operands of each other. -/
def BinaryOp.test? : BinaryOp → Option BinaryOp
  | like | notLike => some like
  | ilike | notIlike => some ilike
  | equal => some equal
  | unequal => some unequal
  | less => some less
  | lessEqual => some lessEqual
  | greater => some greater
  | greaterEqual => some greaterEqual
  | is => some is
  | isDistinct => some isDistinct
  | isNotDistinct => some isNotDistinct
  | glob => some glob
  | similar => some similar
  | overlaps => some overlaps
  | _ => none

/-- Operators that join whole conditions. -/
def BinaryOp.joins : BinaryOp → Bool
  | or | xor | and | assign | argument | leadsTo => true
  | _ => false

/-- Whether an operand of the operator is printed between parentheses: a negation inside any
operator that is not for conditions, and a test inside a test of another kind. -/
def BinaryOp.encloses (op : BinaryOp) (operand : Expr) : Bool :=
  match operand.bare with
  | .unary .not _ => !op.joins
  | .binary inner _ _ => op.test?.isSome && inner.test?.isSome && op.test? != inner.test?
  | .between .. | .oneOf .. => op.test?.isSome
  | _ => false

/-- The parts of an operand, perhaps between parentheses. -/
def operandParts (op : BinaryOp) (operand : Expr) (ps : List Part) : List Part :=
  if op.encloses operand then between (.symbol "(") ps else ps

/-- A minus sign before parts; before another minus sign the space stays. -/
def negated (ps : List Part) : List Part :=
  match ps with
  | ⟨_, .lexeme (.symbol "-")⟩ :: _ => .symbol "-" :: ps
  | _ => .symbol "-" :: tight ps

/-- Whether comments of an expression are left out: those of a path whose last part is a call
or whose parts are too many for a column. -/
def Expr.hidesComments (e : Expr) : Bool :=
  match e with
  | .field .. => !e.isColumn
  | _ => false

/-- The word of a direction that is asked for. -/
def directionParts : Option Direction → List Part
  | none => []
  | some .ascending => [.word "ASC"]
  | some .descending => [.word "DESC"]

/-- Where nulls are, unless they are there anyway. -/
def nullsParts (d : Dialect) (direction : Option Direction) (nullsFirst : Bool) : List Part :=
  let firstAnyway := (direction == some .descending) == d.nullsLarge
  if nullsFirst == firstAnyway then []
  else if nullsFirst then words ["NULLS", "FIRST"] else words ["NULLS", "LAST"]

/-- Groups of parts in brackets directly behind what is before them. -/
def bracketed (groups : List (List Part)) : List Part :=
  .joined "[" :: tight (commas groups) ++ [.joined "]"]

/-- Arguments directly behind the name of a function. -/
def callParts (d : Dialect) (function : Name) (groups : List (List Part)) : List Part :=
  if d.arrayBrackets && function == .plain "ARRAY" then function.parts d ++ bracketed groups
  else function.parts d ++ between (.joined "(") (commas groups)

/-- The parts about the order of rows and about which of them are given. Where a limit stands in
front, an offset needs an order, and the limit behind it is a fetch. -/
def endParts (isLed : Bool) (order limit offset fetch : List Part) : List Part :=
  if !isLed then
    order ++ (if limit.isEmpty then [] else .word "LIMIT" :: limit) ++ offset ++ fetch
  else if offset.isEmpty && fetch.isEmpty then order
  else
    (if order.isEmpty then words ["ORDER BY", "(SELECT NULL)"] else order) ++
    (if offset.isEmpty then words ["OFFSET", "0"] else offset) ++ .word "ROWS" ::
    (if limit.isEmpty then fetch
      else words ["FETCH", "FIRST"] ++ limit ++ words ["ROWS", "ONLY"])

/-- Groups of parts between commas behind a word, if there are any. -/
def listBehind (word : String) (groups : List (List Part)) : List Part :=
  if groups.isEmpty then [] else .word word :: commas groups

/-- Hints behind the first word of a select, if there are any. -/
def hintParts (groups : List (List Part)) : List Part :=
  if groups.isEmpty then [] else .word "/*+" :: commas groups ++ [.word "*/"]

section

variable (d : Dialect)

mutual

/-- The parts of an expression. -/
def Expr.parts : Expr → List Part
  | .name n => n.parts d
  | .variable e => .symbol "@" :: tight e.parts
  | .star => [.symbol "*"]
  | .number digits => [⟨true, .lexeme (.number digits)⟩]
  | .text s => [⟨true, .lexeme (.text s)⟩]
  | .marked mark s => [⟨true, .lexeme (.marked mark s)⟩]
  | .constant c => [.word (c.word d)]
  | .word s => [.word s]
  | .type name arguments isNested =>
    .word name ::
      if arguments.isEmpty then []
      else if isNested then
        .joined "<" :: tight (commas (exprsParts arguments)) ++ [.joined ">"]
      else between (.joined "(") (commas (exprsParts arguments))
  | .field owner member => owner.parts ++ .joined "." :: tight member.parts
  | .item owner indices => owner.parts ++ bracketed (exprsParts indices)
  | .binary op left right =>
    operandParts op left left.parts ++ op.parts ++ operandParts op right right.parts
  | .unary .negative e => negated e.parts
  | .unary .complement e => .symbol "~" :: tight e.parts
  | .unary .not e => .word "NOT" :: e.parts
  | .between e low high =>
    e.parts ++ .word "BETWEEN" :: low.parts ++ .word "AND" :: high.parts
  | .oneOf e choices => e.parts ++ .word "IN" :: choices.parts
  | .call function arguments => callParts d function (exprsParts arguments)
  | .cast isTry e type =>
    .word (if isTry then "TRY_CAST" else "CAST") ::
      between (.joined "(") (e.parts ++ .word "AS" :: type.parts)
  | .case subject branches otherwise =>
    .word "CASE" ::
      (match subject with
        | none => []
        | some e => e.parts) ++
      branchesParts branches ++
      (match otherwise with
        | none => []
        | some e => .word "ELSE" :: e.parts) ++
      [.word "END"]
  | .sorted key direction nullsFirst =>
    key.parts ++ directionParts direction ++ nullsParts d direction nullsFirst
  | .aliased e label => e.parts ++ .word "AS" :: label.parts
  | .group e => between (.symbol "(") e.parts
  | .tuple es => between (.symbol "(") (commas (exprsParts es))
  | .listed es => commas (exprsParts es)
  | .phrase es => (exprsParts es).flatten
  | .series es => separated ";" (exprsParts es)
  | .query q => q.parts
  | .commented (.binary op left right) cs =>
    operandParts op left left.parts ++ op.parts ++ comments cs ++
      operandParts op right right.parts
  | .commented e cs => e.parts ++ if e.hidesComments then [] else comments cs

/-- The parts of each of some expressions. -/
def exprsParts : List Expr → List (List Part)
  | [] => []
  | e :: es => e.parts :: exprsParts es

/-- The parts of the branches of a case. -/
def branchesParts : List (Expr × Expr) → List Part
  | [] => []
  | (test, result) :: more =>
    .word "WHEN" :: test.parts ++ .word "THEN" :: result.parts ++ branchesParts more

/-- The parts of a clause behind its words, with the comments before it. -/
def clauseParts (ws : List String) : Option (Clause Expr) → List Part
  | none => []
  | some ⟨cs, e⟩ => comments cs ++ words ws ++ e.parts

/-- The parts of an expression behind words, if there is one. -/
def partsBehind (ws : List String) : Option Expr → List Part
  | none => []
  | some e => words ws ++ e.parts

/-- The parts of further sources. -/
def joinsParts : List (JoinOf Expr Query) → List Part
  | [] => []
  | ⟨cs, [], source, none, []⟩ :: more =>
    tight (comments cs) ++ ⟨!(comments cs).isEmpty, .lexeme (.symbol ",")⟩ :: source.parts ++
      joinsParts more
  | ⟨cs, ws, source, on?, shared⟩ :: more =>
    comments cs ++ words (joinWords ws) ++ source.parts ++
      (match on? with
        | none =>
          if shared.isEmpty then []
          else .word "USING" :: between (.symbol "(") (commas (exprsParts shared))
        | some e => .word "ON" :: e.parts) ++
      joinsParts more
where
  /-- The words of a join. -/
  joinWords (ws : List String) : List String :=
    if ws == ["STRAIGHT_JOIN"] then ws else ws ++ ["JOIN"]

/-- The parts of each of some queries in a row. -/
def queriesParts : List Query → List Part
  | [] => []
  | q :: qs => q.parts ++ queriesParts qs

/-- The parts of the count of a limit, with the comments behind it. -/
def limitParts : Option (Clause Expr) → List Part
  | none => []
  | some ⟨cs, e⟩ => e.parts ++ comments cs

/-- The parts of a limit in front of a select. -/
def topParts : Option (Clause Expr) → List Part
  | none => []
  | some ⟨_, e⟩ => .word "TOP" :: if e.isNumber then e.parts else between (.symbol "(") e.parts

/-- The parts of the limit in front of a select with some clauses; with an offset it is no such
limit. -/
def leadingLimitParts : ClausesOf Expr Query → List Part
  | ⟨_, _, _, _, _, _, _, _, _, limit?, offset?, _, _, _⟩ =>
    if offset?.isSome then [] else topParts limit?

/-- The parts of clauses; `isLed` tells whether their limit stands in front of them. -/
def clausesParts (isLed : Bool) : ClausesOf Expr Query → List Part
  | ⟨joins, laterals, where?, groupBy?, having?, spreads, windows, qualify?, orderBy?, limit?,
      offset?, fetch?, locks, sample?⟩ =>
    joinsParts joins ++ queriesParts laterals ++ clauseParts ["WHERE"] where? ++
    clauseParts ["GROUP BY"] groupBy? ++ clauseParts ["HAVING"] having? ++
    (exprsParts spreads).flatten ++ listBehind "WINDOW" (exprsParts windows) ++
    partsBehind ["QUALIFY"] qualify? ++
    endParts isLed (clauseParts ["ORDER BY"] orderBy?) (limitParts limit?)
      (partsBehind ["OFFSET"] offset?) (partsBehind ["FETCH"] fetch?) ++
    (if d.locks then (exprsParts locks).flatten else []) ++ partsBehind ["TABLESAMPLE"] sample?

/-- The parts of each of some named queries. -/
def tablesParts : List (CommonTable Expr Query) → List (List Part)
  | [] => []
  | ⟨name, ws, q⟩ :: more =>
    (name.parts ++ words ("AS" :: ws) ++ between (.symbol "(") q.parts) :: tablesParts more

/-- The parts of the named queries in front of a query. -/
def withParts : With Expr Query → List Part
  | ⟨cs, isRecursive, tables⟩ =>
    comments cs ++ words (if isRecursive then ["WITH", "RECURSIVE"] else ["WITH"]) ++
      commas (tablesParts tables)

/-- The parts of the named queries in front of a select, if there are any. -/
def namedParts : Option (With Expr Query) → List Part
  | none => []
  | some w => withParts w

/-- The parts about the table that a select makes, in front of it. -/
def createParts : Option (Clause Query) → List Part
  | none => []
  | some ⟨kind, q⟩ => words ("CREATE" :: kind ++ ["TABLE"]) ++ q.parts ++ [.word "AS"]

/-- The parts about the table that a select puts its rows into, as a clause. -/
def intoParts : Option (Clause Query) → List Part
  | none => []
  | some ⟨kind, q⟩ => words ("INTO" :: kind) ++ q.parts

/-- The parts of the source of a select. -/
def sourceParts : Option (Clause Query) → List Part
  | none => []
  | some ⟨cs, q⟩ => comments cs ++ .word "FROM" :: q.parts

/-- The parts of a select. -/
def selectParts : SelectOf Expr Query → List Part
  | ⟨with?, cs, hints, distinct?, ws, items, into?, source?, clauses⟩ =>
    (if d.intoClause then [] else createParts into?) ++ namedParts with? ++
    comments cs ++ [.word "SELECT"] ++ hintParts (exprsParts hints) ++
    partsBehind [] distinct? ++ (if d.leadingLimit then leadingLimitParts clauses else []) ++
    words ws ++ commas (exprsParts items) ++ (if d.intoClause then intoParts into? else []) ++
    sourceParts source? ++ clausesParts d.leadingLimit clauses

/-- The parts of a query. -/
def Query.parts : Query → List Part
  | .select s => selectParts s
  | .expr e => e.parts
  | .values rows => .word "VALUES" :: commas (exprsParts rows)
  | .nested q => between (.symbol "(") q.parts
  | .combined ws cs left right => left.parts ++ comments cs ++ words ws ++ right.parts
  | .aliased q label => q.parts ++ .word "AS" :: label.parts
  | .refined q clauses => q.parts ++ clausesParts false clauses
  | .with w q => withParts w ++ q.parts
  | .commented q cs => q.parts ++ comments cs

end

end

/-- A select as one line in a dialect. -/
def printSelect (d : Dialect) (s : Select) : String :=
  line d (selectParts d s)

/-- An expression as one line in a dialect. -/
def printExpr (d : Dialect) (e : Expr) : String :=
  line d (e.parts d)

end QueryBook.Sql
