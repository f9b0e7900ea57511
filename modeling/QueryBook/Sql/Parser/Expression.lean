import QueryBook.Sql.Parser.Operand

/-!
# Reading expressions

The grammar of expressions, level by level: from signs and operands up over products, sums,
bits, tests such as `BETWEEN`, comparison, equality, `AND` and `OR` to the values of parameters
and aliases. Tests may follow each other; `NOT` before a test negates it alone.
-/

namespace QueryBook.Sql

namespace Parser

/-! ## Operators -/

def productOp? : Lexeme → Option BinaryOp :=
  symbolOp? [("*", .multiply), ("/", .divide), ("<->", .distance)]

/-- The operator on bits, or the one that concatenates texts. -/
def bitOp? (d : Dialect) (l : Lexeme) : Option BinaryOp :=
  match symbolOp? [("&", .bitAnd), ("|", .bitOr), ("^", .bitXor), ("||", .concat)] l with
  | some .concat => if d.conditionSigns then none else some .concat
  | op => op

def comparisonOp? : Lexeme → Option BinaryOp :=
  symbolOp? [("<", .less), ("<=", .lessEqual), (">", .greater), (">=", .greaterEqual)]

def equalityOp? : Lexeme → Option BinaryOp :=
  symbolOp? [("=", .equal), ("<>", .unequal), ("<=>", .isNotDistinct)]

/-- The operator that joins conditions of which all hold, or just one of two. -/
def conjunctionOp? (d : Dialect) (l : Lexeme) : Option BinaryOp :=
  match l with
  | .keyword "AND" _ => some .and
  | .keyword "XOR" _ => if d.conditionSigns then some .xor else none
  | .symbol "&&" => if d.conditionSigns then some .and else none
  | _ => none

/-- The operator that joins conditions of which one holds at least. -/
def disjunctionOp? (d : Dialect) (l : Lexeme) : Option BinaryOp :=
  match l with
  | .keyword "OR" _ => some .or
  | .symbol "||" => if d.conditionSigns then some .or else none
  | _ => none

/-- The operator of a sum; a collation is one as well. -/
def sumOp? (l : Lexeme) : Option BinaryOp :=
  match symbolOp? [("+", .add), ("-", .subtract), ("%", .remainder)] l with
  | some op => some op
  | none => keywordOp? [("COLLATE", .collate)] l

/-- The test of two operands by its keyword or sign. -/
def testOp? (d : Dialect) : Lexeme → Option BinaryOp
  | .keyword kind _ =>
    [("GLOB", .glob), ("ILIKE", .ilike), ("LIKE", .like), ("OVERLAPS", .overlaps),
     ("SIMILAR TO", .similar)].lookup kind
  | .symbol "&&" => if d.conditionSigns then none else some .overlapsArray
  | .symbol s => [("&<", .extendsLeft), ("&>", .extendsRight)].lookup s
  | _ => none

section

variable (g : Grammar)

/-! ## Levels below tests -/

/-- An operand with the signs before it; a plus sign is dropped. -/
def unary : Parser (Option Expr) := do
  if ← symbol "+" then g.unary
  else if ← keyword "NOT" then return some (← made (.unary .not (← required g.equality)))
  else if ← symbol "~" then return some (← made (.unary .complement (← required g.unary)))
  else if ← symbol "-" then return some (← made (.unary .negative (← required g.unary)))
  else operand g

/-- An operand in a time zone, if one follows. -/
def inTimeZone (e? : Option Expr) : Parser (Option Expr) :=
  iterate (fun e? => do
    unless ← reads ["AT", "TIME", "ZONE"] do return none
    let some e := e? | failure
    let zone ← required g.unary
    return some (some (← made (e.related "AT TIME ZONE" zone)))) e?

/-- Operands with products between them. A division of whole numbers is a division and a cast;
its keyword is a name where no operand follows. -/
def factor : Parser (Option Expr) := do
  let first ← inTimeZone g (← unary g)
  iterate (fun left => do
    let c ← get
    if ← keyword "DIV" then
      match ← unary g with
      | none =>
        retreat c
        return none
      | some right =>
        let some left := left | failure
        let quotient := Expr.binary .divide left right
        discard taken
        return some (some (.cast false quotient (.type "BIGINT" [] false)))
    else
      let some op := (← ahead?).bind productOp? | return none
      advance
      let comments ← pending
      let some left := left | failure
      let right ← required (unary g)
      return some (some (← madeWith comments (.binary op left right)))) first

/-- Operands with sums between them. -/
def term : Parser (Option Expr) :=
  chain sumOp? (factor g)

/-- Two signs in a row that shift bits. -/
def shift : Parser (Option BinaryOp) := do
  if ← acceptBoth (·.isSymbol "<") (·.isSymbol "<") then return some .shiftLeft
  else if ← acceptBoth (·.isSymbol ">") (·.isSymbol ">") then return some .shiftRight
  else return none

/-- Operands with operators on bits between them, and those of the same level. -/
def bitwise : Parser (Option Expr) := do
  let first ← term g
  iterate (fun left => do
    if ← symbol "??" then
      let some left := left | failure
      let right ← required (term g)
      return some (some (← made (.calling "COALESCE" [left, right])))
    else
      let op? ← do
        match (← ahead?).bind (bitOp? g.dialect) with
        | some op =>
          advance
          pure (some op)
        | none => shift
      let some op := op? | return none
      let some left := left | failure
      let right ← required (term g)
      return some (some (← made (.binary op left right)))) first

/-! ## Tests -/

/-- What an expression is one of, behind `IN`. -/
def choices (e : Expr) : Parser Expr := do
  if ← acceptBoth (·.isKeyword "UNNEST") (·.isSymbol "(") then
    let es ← separated g.equality
    expectSymbol ")"
    made (.oneOf e (.calling "UNNEST" es))
  else
    let isRound ← symbol "("
    if ← pure isRound <||> symbol "[" then
      let es ← separated (queryOr g g.assignment)
      let e ←
        match es.map Expr.bare with
        | [.query q] => made (.oneOf e (.query (.nested (← g.clauses q))))
        | _ => made (.oneOf e (.tuple es))
      if isRound then closed e
      else
        expectSymbol "]"
        made e
    else
      match ← g.column with
      | some field => made (.oneOf e field)
      | none => made (.oneOf e (.tuple []))

/-- The bounds that an expression is between, behind `BETWEEN`. -/
def bounds (e : Expr) : Parser Expr := do
  let isSymmetric ← reads ["SYMMETRIC"]
  unless isSymmetric do discard <| reads ["ASYMMETRIC"]
  let low ← required (bitwise g)
  discard <| keyword "AND"
  let high ← required (bitwise g)
  if isSymmetric then
    made (.group (.binary .or (.between e low high) (.between e high low)))
  else made (.between e low high)

/-- A test with the character that escapes others in its pattern, if it is given. -/
def escaped (e : Expr) : Parser Expr := do
  unless ← keyword "ESCAPE" do return e
  match ← primary g with
  | some mark => made (.binary .escape e mark)
  | none => failure

/-- The constant for no value, or a placeholder. -/
def null : Parser (Option Expr) := do
  if (← keywordOf ["NULL", "UNKNOWN"]).isSome then return some (← made (.constant .null))
  else placeholder g

/-- A test against a constant, behind `IS`; where nothing follows, the word is a name. -/
def identity (e : Expr) (c : Cursor) : Parser (Option Expr) := do
  let isNegated ← keyword "NOT"
  if ← reads ["DISTINCT", "FROM"] then
    let right ← required (bitwise g)
    return some (← made (.binary (if isNegated then .isNotDistinct else .isDistinct) e right))
  let right ← do
    if ← keyword "JSON" then
      let kind := (← readsOf ["ARRAY", "OBJECT", "SCALAR", "VALUE"]).toList
      let kind := kind ++ (← readsOf ["WITH", "WITHOUT"]).toList
      let isUnique ← keyword "UNIQUE"
      discard <| reads ["KEYS"]
      let words := ["JSON"] ++ kind ++ if isUnique then ["UNIQUE KEYS"] else []
      pure (some (← made (.phrase (words.map .word))))
    else
      match ← null g with
      | some e => pure (some e)
      | none => bitwise g
  let some right := right
    | retreat c
      return none
  let e ← made (.binary .is e right)
  let e ← if isNegated then made (.unary .not e) else pure e
  return some (← columnOps g e)

/-- The negation of a test; a pattern has negated operators. -/
def negation : Expr → Expr
  | .binary .like e pattern => .binary .notLike e pattern
  | .binary .ilike e pattern => .binary .notIlike e pattern
  | .binary .escape e mark =>
    match e.bare with
    | .binary .like e' pattern =>
      .binary .escape (Expr.annotated e.comments (.binary .notLike e' pattern)) mark
    | .binary .ilike e' pattern =>
      .binary .escape (Expr.annotated e.comments (.binary .notIlike e' pattern)) mark
    | _ => .unary .not (.binary .escape e mark)
  | .commented e comments =>
    match e with
    | .binary .like a b => .commented (.binary .notLike a b) comments
    | .binary .ilike a b => .commented (.binary .notIlike a b) comments
    | e => .unary .not (.commented e comments)
  | e => .unary .not e

/-- A test of an expression, if one follows. -/
def test (e : Expr) : Parser (Option Expr) := do
  let c ← get
  if ← keyword "BETWEEN" then return some (← bounds g e)
  else if ← keyword "IN" then return some (← choices g e)
  else if ← keyword "IS" then identity g e c
  else if ← keyword "RLIKE" then
    let pattern ← required (bitwise g)
    discard taken
    return some (← escaped g (.calling "REGEXP_LIKE" [e, pattern]))
  else if ← symbol "~*" then
    let pattern ← required (bitwise g)
    discard taken
    return some (← escaped g (.calling "REGEXP_ILIKE" [e, pattern]))
  else
    let some op := (← ahead?).bind (testOp? g.dialect) | return none
    advance
    let pattern ← required (bitwise g)
    return some (← escaped g (← made (.binary op e pattern)))

/-- An expression with the tests behind it, each perhaps negated by `NOT` before it. -/
def range : Parser (Option Expr) := do
  let first ← bitwise g
  iterate (fun e? => do
    let c ← get
    let isNegated ← keyword "NOT"
    let tested? ← do
      match e? with
      | none => pure none
      | some e =>
        match ← test g e with
        | some e => pure (some e)
        | none =>
          if ← keyword "ISNULL" <||> (pure isNegated <&&> keyword "NULL") then
            pure (some (← made (.binary .is e (.constant .null))))
          else if ← keyword "NOTNULL" then
            pure (some (.unary .not (← made (.binary .is e (.constant .null)))))
          else pure none
    match tested? with
    | none =>
      retreat c
      return none
    | some e => return some (some (if isNegated then negation e else e))) first

/-! ## Levels above tests -/

def comparison : Parser (Option Expr) :=
  chain comparisonOp? (range g)

def equality : Parser (Option Expr) :=
  chain equalityOp? (comparison g)

def conjunction : Parser (Option Expr) :=
  chain (conjunctionOp? g.dialect) (equality g)

def disjunction : Parser (Option Expr) :=
  chain (disjunctionOp? g.dialect) (conjunction g)

/-- An expression, or the value of a parameter, which may have any name. -/
def assignment : Parser (Option Expr) := do
  let left ← do
    match ← disjunction g with
    | some e => pure (some e)
    | none =>
      if (← second?).any (·.isSymbol ":=") && (← ahead?).isSome then
        advance
        pure (some (.name (.plain (← lastContent))))
      else pure none
  unless ← symbol ":=" do return left
  let comments ← pending
  let some left := left | failure
  let right ← required g.assignment
  return some (← madeWith comments (.binary .assign left right))

/-- An expression with an alias behind it, if there is one. -/
def item : Parser (Option Expr) := do
  aliased g false (← assignment g)

end

end Parser

end QueryBook.Sql
