import QueryBook.Sql.Parser.Operand

/-!
# Reading sources

What a query takes rows from: tables and functions, queries in parentheses, listed rows, and
joins of these. A join may stand before the joins of its own source, whose test it then follows.
-/

namespace QueryBook.Sql

namespace Parser

/-! ## Queries with something behind them -/

/-- A query with a change that its comments stay behind. -/
def inside (f : Query → Query) : Query → Query
  | .commented q comments => .commented (f q) comments
  | q => f q

/-- A query with joins behind it, if there are any. -/
def withJoins (joins : List Join) (q : Query) : Query :=
  if joins.isEmpty then q
  else inside (fun q => .refined q { ClausesOf.empty with joins := joins }) q

section

variable (g : Grammar)

/-! ## Tables -/

/-- A part of the path of a table. -/
def tablePart : Parser (Option Expr) := do
  if let some e ← function g false then return some e
  if let some e ← name g then return some e
  textName

/-- The path of a table, whose inner parts may be missing. All its comments stand behind it. -/
def tablePath : Parser (Option Query) := do
  let some first ← tablePart g | return none
  let (path, last, comments) ← iterate (fun (path, _, comments) => do
    unless ← symbol "." do return none
    let part? ← tablePart g
    let part := part?.getD (.word "")
    return some (Expr.field path part.bare, part?, comments ++ part.comments))
    (first.bare, some first, first.comments)
  if last.isNone then failure
  let comments ← if comments.isEmpty then taken else pure comments
  return some (Query.annotated comments (.expr path))

/-- Hints behind a table. -/
def tableHints : Parser (List Expr) := do
  unless ← acceptBoth (·.isKeyword "WITH") (·.isSymbol "(") do return []
  let hints ← separated do
    match ← function g true with
    | some e => return some e
    | none => wordWhere g true fun _ => false
  expectSymbol ")"
  return [.word "WITH", .tuple hints]

/-- A part of the rows by chance. -/
def sample : Parser (Option Expr) := do
  unless ← keyword "TABLESAMPLE" do return none
  let method ← do
    if ← keyword "ROW" then pure [Expr.word "ROW"] else pure (← capitalWord g).toList
  let isWrapped ← symbol "("
  let isNumber ← sees fun l => match l with | .number _ => true | _ => false
  let count ← if isNumber then g.factor else primary g
  let some count := count | failure
  let isPercent ← keyword "PERCENT" <||> symbol "%"
  unless isPercent do discard <| keyword "ROWS"
  if isWrapped then expectSymbol ")"
  let seed ← do
    if (← readsOf ["REPEATABLE", "SEED"]).isSome then
      let e ← wrapped (required (primary g))
      pure [Expr.word "SEED", .tuple [e]]
    else pure []
  let size := count.trailed (if isPercent then "PERCENT" else "ROWS")
  return some (.phrase (method ++ [.tuple [size]] ++ seed))

/-- A query under a name, if one follows. -/
def named (q : Query) : Parser Query := do
  match ← tableAlias g with
  | some label => return inside (.aliased · label) q
  | none => return q

/-- A query with words behind it, unless there are none. -/
def withPhrase (words : List Expr) (q : Query) : Query :=
  if words.isEmpty then q else inside (fun q => .expr (.phrase (.query q :: words))) q

/-- A query with a part of the rows chosen by chance, if that is asked for. -/
def sampled (q : Query) : Parser Query := do
  match ← sample g with
  | some e =>
    return inside (fun q => .refined q { ClausesOf.empty with sample? := some e }) q
  | none => return q

/-- Whether the words about the number of each row follow. -/
def ordinality : Parser Bool :=
  acceptBoth (·.isKeyword "WITH") (·.isKeyword "ORDINALITY")

/-- A table or a function with what may stand behind it. -/
def plainTable : Parser (Option Query) := do
  let some q ← tablePath g | return none
  discard <| symbol "*"
  let q ← named g q
  let q := withPhrase (← tableHints g) q
  let q ← sampled g q
  if ← ordinality then
    return some (← named g (withPhrase [.word "WITH ORDINALITY"] q))
  else return some q

/-! ## Rows -/

/-- A row of values. -/
def row : Parser (Option Expr) := do
  if ← symbol "(" then
    let es ← separated do
      if ← keyword "DEFAULT" then return some (.word "DEFAULT") else g.item
    expectSymbol ")"
    return some (← made (.tuple es))
  else return (← g.item).map fun e => .tuple [e]

/-- Listed rows under a name. -/
def namedRows (rows : List Expr) (label? : Option Expr) : Query :=
  match label? with
  | none => .values rows
  | some label => .aliased (.nested (.values rows)) label

/-- Listed rows, perhaps between parentheses and under a name. -/
def values : Parser (Option Query) := do
  let isWrapped ← acceptBoth (·.isSymbol "(") (·.isKeyword "VALUES")
  unless ← pure isWrapped <||> keyword "VALUES" <||> reads ["FORMAT", "VALUES"] do
    return none
  let rows ← someOf (separated (row g))
  let inner? ← tableAlias g
  if isWrapped then expectSymbol ")"
  let label? ← if inner?.isSome then pure inner? else tableAlias g
  return some (Query.annotated (← taken) (namedRows rows label?))

/-- The elements of arrays as rows. -/
def unnest : Parser (Option Query) := do
  unless ← acceptBoth (·.isKeyword "UNNEST") (·.isSymbol "(") do return none
  let es ← someOf (separated g.equality)
  expectSymbol ")"
  let call := Expr.calling "UNNEST" es
  let isNumbered ← ordinality
  let call := if isNumbered then call.trailed "WITH ORDINALITY" else call
  let label? ← tableAlias g
  let isCounted ← acceptBoth (·.isKeyword "WITH") (·.isKeyword "OFFSET")
  let q : Query ← do
    if isCounted && !isNumbered then
      discard <| keyword "AS"
      let counter := (← name g).getD (.ofName "offset")
      let label? := label?.map fun label => match label with
        | .call n columns => .call n (columns ++ [counter])
        | .name n => .call n [counter]
        | e => e
      let call := call.trailed "WITH ORDINALITY"
      pure (match label? with | some label => .aliased (.expr call) label | none => .expr call)
    else pure (match label? with | some label => .aliased (.expr call) label | none => .expr call)
  return some (Query.annotated (← taken) q)

/-! ## Sources that depend on others -/

/-- What depends on the sources before it. -/
def dependent : Parser Query := do
  if let some q ← g.query .source then return q
  if let some q ← unnest g then return q
  let first ← do
    match ← function g true with
    | some e => pure e
    | none => required (name g)
  let path ← iterate (fun path => do
    unless ← symbol "." do return none
    let part ← do
      match ← function g true with
      | some e => pure e
      | none => required (name g)
    return some (Expr.field path part)) first
  let q := Query.expr path
  if ← ordinality then named g (withPhrase [.word "WITH ORDINALITY"] q) else named g q

/-- The view that a function gives for each row. -/
def lateralView : Parser Query := do
  let words := if ← keyword "OUTER" then "LATERAL VIEW OUTER" else "LATERAL VIEW"
  let call ← do
    match ← function g true with
    | some e => pure e
    | none => required (name g)
  let table? ← name g
  let columns ← do
    if ← keyword "AS" then pure [.word "AS", .listed (← separated (certainName g))]
    else pure []
  return .expr (.phrase ([.word words, call] ++ table?.toList ++ columns))

/-- A source that depends on those before it, behind its word. -/
def lateral : Parser (Option Query) := do
  unless ← keyword "LATERAL" do return none
  if ← keyword "VIEW" then return some (← lateralView g)
  else return some (.expr (.led "LATERAL" (.query (← dependent g))))

/-- A source. -/
def table : Parser (Option Query) := do
  if let some q ← lateral g then return some q
  if let some q ← unnest g then return some q
  if let some q ← values g then return some q
  if let some q ← g.query .source then return some q
  plainTable g

/-! ## Joins -/

/-- The words before `JOIN`, with their comments. -/
def joinWords : Parser (List String × List String) := do
  let word (kinds : List String) : Parser (List String × List String) := do
    match ← keywordOf kinds with
    | some kind => return ([kind], ← pending)
    | none => return ([], [])
  let method ← word ["ASOF", "NATURAL"]
  let side ← word ["FULL", "LEFT", "RIGHT"]
  let kind ← word ["ANTI", "CROSS", "INNER", "OUTER", "SEMI", "STRAIGHT_JOIN"]
  return (method.1 ++ side.1 ++ kind.1, method.2 ++ side.2 ++ kind.2)

/-- The columns that joined rows share. -/
def sharedColumns : Parser (List Expr) := do
  let isWrapped ← symbol "("
  let es ← separated g.column
  if isWrapped then expectSymbol ")"
  return es.map fun e =>
    match e.bare with
    | .field _ member => member
    | _ => e

/-- The test behind a source: a condition, or columns. -/
def joinTest : Parser (Option (Option Expr × List Expr)) := do
  if ← keyword "ON" then return some (← g.disjunction, [])
  else if ← keyword "USING" then return some (none, ← sharedColumns g)
  else return none

/-- A source that each row is applied to, behind its words. -/
def application (words : List String) : Parser Join := do
  let source ← dependent g
  let test := (← joinTest g).getD (none, [])
  return ⟨← taken, words, .expr (.led "LATERAL" (.query source)), test.1, test.2⟩

/-- A further source behind a comma. Where none follows, the comma is read all the same. -/
def commaJoin : Parser (Option Join) := do
  match ← attempt (table g) with
  | none => return none
  | some q => return some ⟨← taken, [], q, none, []⟩

/-- Whether joins may stand between a source and its test. -/
def allowsNested (words : List String) (source : Query) : Bool :=
  !words.any ["ASOF", "CROSS", "NATURAL"].contains &&
    match source with
    | .expr (.call (.plain "UNNEST") _) | .aliased (.expr (.call (.plain "UNNEST") _)) _ => false
    | _ => true

/-- A further source; `joins` reads those that may stand between a source and its test. -/
def join (joins : Parser (List Join)) : Parser (Option Join) := do
  if ← symbol "," then return (← commaJoin g)
  let c ← get
  let (words, wordComments) ← joinWords
  let isJoin := (← keyword "JOIN") || words.getLast? == some "STRAIGHT_JOIN"
  let comments := (← pending) ++ wordComments
  unless isJoin do
    retreat c
    if ← acceptBoth (·.isKeyword "OUTER") (·.isKeyword "APPLY") then
      return some (← application g ["LEFT"])
    else if ← acceptBoth (·.isKeyword "CROSS") (·.isKeyword "APPLY") then
      return some (← application g ["INNER"])
    else return none
  let source ← required (table g)
  let (source, test) ← do
    match ← joinTest g with
    | some test => pure (source, test)
    | none =>
      if allowsNested words source then
        let behind ← get
        let inner ← joins
        let test? ← if inner.isEmpty then pure none else joinTest g
        match test? with
        | some test => pure (withJoins inner source, test)
        | none =>
          retreat behind
          pure (source, (none, []))
      else pure (source, (none, []))
  let comments ← if comments.isEmpty then taken else pure comments
  return some ⟨comments, words, source, test.1, test.2⟩

/-- Further sources, with joins between a source and its test to a depth. -/
def joinsUpTo : Nat → Parser (List Join)
  | 0 => failure
  | n + 1 => many (join g (joinsUpTo n))

/-- Further sources. -/
def joins : Parser (List Join) := do
  joinsUpTo g ((← get).rest.length + 1)

end

end Parser

end QueryBook.Sql
