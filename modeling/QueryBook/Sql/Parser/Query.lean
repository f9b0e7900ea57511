import QueryBook.Sql.Parser.Expression
import QueryBook.Sql.Parser.Source

/-!
# Reading queries

Selects with their clauses, and queries made of selects by parentheses, set operations and named
queries in front. The clauses behind the sources may come in any order, each of them once. The
sources may also come before the projected expressions, or without any.
-/

namespace QueryBook.Sql

namespace Parser

/-! ## Clauses of queries -/

/-- The clauses of a query. -/
def clausesOf : Query → Clauses
  | .select s => s.clauses
  | .refined _ c => c
  | .commented q _ => clausesOf q
  | _ => .empty

/-- A query with other clauses. -/
def withClauses (c : Clauses) : Query → Query
  | .select s => .select { s with clauses := c }
  | .refined q _ => .refined q c
  | .commented q comments => .commented (withClauses c q) comments
  | q => .refined q c

/-- Whether a query is a table, whose only clauses are joins and sources that depend on them. -/
def isTable : Query → Bool
  | .expr _ => true
  | .aliased q _ | .refined q _ | .commented q _ => isTable q
  | _ => false

section

variable (g : Grammar)

/-- Groupings by several lists of keys. -/
def groupingSets : Parser (Option Expr) := do
  let keys : Parser Expr := return .tuple (← wrapped (separated g.bitwise))
  let nested : Parser (Option Expr) := do
    match ← keywordOf ["CUBE", "ROLLUP"] with
    | some kind => return some (.led kind (← keys))
    | none => g.bitwise
  unless ← keyword "GROUPING SETS" do return none
  return some (.led "GROUPING SETS" (.tuple (← wrapped (separated nested))))

/-- A grouping by the parts of a list of keys; behind `WITH` it is only a word. -/
def partGrouping (isWord : Bool) : Parser (Option Expr) := do
  match ← keywordOf ["CUBE", "ROLLUP"] with
  | none => return none
  | some kind =>
    if isWord then return some (.word ("WITH " ++ kind))
    else return some (.led kind (.tuple (← wrapped (separated g.bitwise))))

/-- What rows are grouped by: keys, and groupings by several lists of them, sets first and then
cubes and rollups. -/
structure Grouping where
  keys : List Expr
  sets : List Expr
  cubes : List Expr
  rollups : List Expr
  hasTotals : Bool

namespace Grouping

/-- The grouping by a cube or a rollup, and the rest. -/
def add (r : Grouping) (e : Expr) : Grouping :=
  match e with
  | .phrase (.word "CUBE" :: _) | .word "WITH CUBE" => { r with cubes := r.cubes ++ [e] }
  | _ => { r with rollups := r.rollups ++ [e] }

/-- The keys and groupings as they are printed. A word about all keys stands behind them. -/
def parts (r : Grouping) : Expr :=
  let totals := if r.hasTotals then [Expr.word "WITH TOTALS"] else []
  match r.sets ++ r.cubes ++ r.rollups ++ totals with
  | [.word "WITH CUBE"] => .trailed (.listed r.keys) "WITH CUBE"
  | [.word "WITH ROLLUP"] => .trailed (.listed r.keys) "WITH ROLLUP"
  | groupings => .listed (r.keys ++ groupings)

end Grouping

/-- What rows are grouped by, behind `GROUP BY`. -/
def groupings : Parser Expr := do
  let key : Parser (Option Expr) := do
    if ← sees fun l => l.isKeyword "CUBE" || l.isKeyword "ROLLUP" then return none
    else g.disjunction
  let (r, _) ← iterate (fun (r, isDone) => do
    if isDone then return none
    let c ← get
    let keys ← separated key
    let r := { r with keys := r.keys ++ keys }
    let behind ← get
    let isWord ← keyword "WITH"
    let r ← do
      match ← partGrouping g isWord with
      | some e => pure (r.add e)
      | none =>
        match ← groupingSets g with
        | some e => pure { r with sets := r.sets ++ [e] }
        | none => if ← reads ["TOTALS"] then pure { r with hasTotals := true } else pure r
    let isNew := (← get).rest.length + (if isWord then 1 else 0) < behind.rest.length
    if isNew then return some (r, (← get).rest.length == c.rest.length)
    else
      retreat behind
      return some (r, true)) ((⟨[], [], [], [], false⟩ : Grouping), false)
  return r.parts

/-- The body of `GROUP BY`, behind it. -/
def groupBy : Parser Expr := do
  let words ← do
    if ← keyword "ALL" then pure (some "ALL")
    else if ← keyword "DISTINCT" then pure (some "DISTINCT")
    else pure none
  let keys ← groupings g
  match words with
  | none => return keys
  | some words => return .led words keys

/-- Locks on the rows, each with the tables it is for and whether to wait. -/
def lock : Parser (Option Expr) := do
  let some words ← (do
      if ← reads ["FOR", "UPDATE"] then return some "FOR UPDATE"
      else if ← reads ["FOR", "SHARE"] then return some "FOR SHARE"
      else if ← reads ["LOCK", "IN", "SHARE", "MODE"] then return some "FOR SHARE"
      else if ← reads ["FOR", "KEY", "SHARE"] then return some "FOR KEY SHARE"
      else if ← reads ["FOR", "NO", "KEY", "UPDATE"] then return some "FOR NO KEY UPDATE"
      else return none) | return none
  let tables ← do
    if ← reads ["OF"] then
      let es ← separated do return (← tablePath g).map .query
      pure [.word "OF", .listed es]
    else pure []
  let wait ← do
    if ← reads ["NOWAIT"] then pure [.word "NOWAIT"]
    else if ← reads ["WAIT"] then pure (.word "WAIT" :: (← g.primary).toList)
    else if ← reads ["SKIP", "LOCKED"] then pure [.word "SKIP LOCKED"]
    else pure []
  return some (.phrase (.word words :: tables ++ wait))

/-- What a clause is, if there is none of its kind. -/
def once {α : Type} (before? : Option α) (p : Parser α) : Parser (Option α) := do
  let a ← p
  if before?.isSome then failure else return some a

/-- A clause behind its first word, whose comments stand before it. -/
def clause (p : Parser Expr) : Parser (Clause Expr) := do
  advance
  let comments ← pending
  let e ← p
  let comments ← if comments.isEmpty then taken else pure comments
  return ⟨comments, e⟩

/-- How rows are spread or sorted among workers. -/
def spread (c : Clauses) (words : String) : Parser Clauses := do
  advance
  if c.spreads.any fun e => match e with | .phrase (.word w :: _) => w == words | _ => false then
    failure
  let keys ← someOf (separated (sortKey g))
  let place (w : String) : Nat := ["CLUSTER BY", "DISTRIBUTE BY", "SORT BY"].idxOf w
  let isBefore (e : Expr) : Bool :=
    match e with
    | .phrase (.word w :: _) => place w < place words
    | _ => false
  let new := Expr.led words (.listed keys)
  return { c with
    spreads := c.spreads.takeWhile isBefore ++ new :: c.spreads.dropWhile isBefore }

/-- The next limit among clauses; it may hold an offset, which takes the place of another. -/
def limitClause (c : Clauses) : Parser (Option Clauses) := do
  let some found ← limit g | return none
  if c.limit?.isSome || c.fetch?.isSome then failure
  match found with
  | .limit body offset? =>
    return some { c with limit? := some body, offset? := offset?.or c.offset? }
  | .fetch e => return some { c with fetch? := some e }

/-- The next clause behind others, if there is one. -/
def nextClause (c : Clauses) : Parser (Option Clauses) := do
  let some (.keyword kind _) ← ahead? | return none
  match kind with
  | "WHERE" =>
    return some { c with where? := ← once c.where? (clause (required g.disjunction)) }
  | "GROUP BY" => return some { c with groupBy? := ← once c.groupBy? (clause (groupBy g)) }
  | "HAVING" =>
    return some { c with having? := ← once c.having? (clause (required g.disjunction)) }
  | "QUALIFY" =>
    advance
    return some { c with qualify? := ← once c.qualify? (required g.disjunction) }
  | "WINDOW" =>
    advance
    let windows ← separated (namedWindow g)
    if windows.isEmpty then return none
    if c.windows.isEmpty then return some { c with windows := windows } else failure
  | "ORDER BY" =>
    let keys ← once c.orderBy? do
      let keys ← required (order g)
      return ⟨← taken, keys⟩
    return some { c with orderBy? := keys }
  | "LIMIT" | "FETCH" => limitClause g c
  | "OFFSET" => return some { c with offset? := ← once c.offset? (required (offset g)) }
  | "FOR" | "LOCK" =>
    let locks ← many (lock g)
    if locks.isEmpty then return none
    if c.locks.isEmpty then return some { c with locks := locks } else failure
  | "TABLESAMPLE" =>
    return some { c with sample? := ← once c.sample? (required (sample g)) }
  | "CLUSTER BY" | "DISTRIBUTE BY" | "SORT BY" => return some (← spread g c kind)
  | _ => return none

/-- A query with the clauses behind it. -/
def clauses (q : Query) : Parser Query := do
  let start ← get
  let before := clausesOf q
  let joins ← joins g
  let laterals ← many (lateral g)
  let sources := { before with
    joins := before.joins ++ joins, laterals := before.laterals ++ laterals }
  let all ← iterate (nextClause g) sources
  if (← get).rest.length == start.rest.length then return q
  else return withClauses (if isTable q then sources else all) q

/-! ## Set operations -/

/-- The words of a set operation and the comments before it, if one follows. -/
def setWords : Parser (Option (List String × List String)) := do
  let c ← get
  let (words, _) ← joinWords
  let some kind ← keywordOf ["EXCEPT", "INTERSECT", "UNION"]
    | retreat c
      return none
  let comments ← pending
  let all ← do
    if ← keyword "DISTINCT" then pure [] else if ← keyword "ALL" then pure ["ALL"] else pure []
  let byName ← reads ["BY", "NAME"] <||> reads ["STRICT", "CORRESPONDING"]
  let corresponds ← reads ["CORRESPONDING"]
  let words := if corresponds && words.isEmpty then ["INNER"] else words
  let names := if byName || corresponds then ["BY NAME"] else []
  return some (words ++ [kind] ++ all ++ names, comments)

/-- The order and the limits of a query, and the query without them. -/
def splitEnd (q : Query) : Clauses × Query :=
  match q with
  | .select s =>
    let c := s.clauses
    ({ ClausesOf.empty with
        orderBy? := c.orderBy?, limit? := c.limit?, offset? := c.offset?, fetch? := c.fetch? },
      .select { s with clauses := { c with
        orderBy? := none, limit? := none, offset? := none, fetch? := none } })
  | q => (.empty, q)

/-- Whether there is an order or a limit among clauses. -/
def hasEnd (c : Clauses) : Bool :=
  c.orderBy?.isSome || c.limit?.isSome || c.offset?.isSome || c.fetch?.isSome

/-- A combined query; the order and the limits of its last part are those of the whole. -/
def withEnd (q : Query) : Query :=
  match q with
  | .combined words comments left right =>
    let (c, right) := splitEnd right
    if hasEnd c then .refined (.combined words comments left right) c else q
  | q => q

/-- A query with the set operations behind it. -/
def setOperations (q : Query) : Parser Query := do
  let q ← iterate (fun left => do
    let some (words, comments) ← setWords | return none
    let right ← required (g.query .operand)
    let comments ← if comments.isEmpty then taken else pure comments
    return some (.combined words comments left right)) q
  return withEnd q

/-! ## Named queries -/

/-- A named query. Listed rows are the source of a select of all of them. -/
def commonTable : Parser (Option (CommonTable Expr Query)) := do
  let some name ← tableAliasWhere g Keyword.isName | failure
  let isAnnounced ← keyword "AS"
  let comments ← if isAnnounced then pending else pure []
  let words ← do
    if ← reads ["NOT", "MATERIALIZED"] then pure ["NOT MATERIALIZED"]
    else if ← reads ["MATERIALIZED"] then pure ["MATERIALIZED"]
    else pure []
  let q ← wrapped (required g.statement)
  let comments ← if comments.isEmpty then taken else pure comments
  let ofRows (rows : Query) : Query :=
    .select { SelectOf.ofItems [.star] with source? := some ⟨[], rows⟩ }
  let q :=
    match q with
    | .values rows => ofRows (.aliased (.nested (.values rows)) (.ofName "_values"))
    | .aliased (.nested (.values rows)) label =>
      ofRows (.aliased (.nested (.values rows)) label)
    | q => q
  return some ⟨name.annotated comments, words, q⟩

/-- Named queries, behind their word. The comments of what separates them belong to the next
one. -/
def commonTables : Parser (List (CommonTable Expr Query)) := do
  let (tables, _) ← iterate (fun (tables, isDone) => do
    if isDone then return none
    let comments ← if tables.isEmpty then pure [] else pending
    let some t ← commonTable g | failure
    let tables := tables ++ [{ t with name := t.name.annotated comments }]
    let isNext ← symbol "," <||> keyword "WITH"
    if isNext then discard <| keyword "WITH"
    return some (tables, !isNext)) ([], false)
  return tables

/-- The named queries in front of a query, if there are any. -/
def withTables : Parser (Option (With Expr Query)) := do
  unless ← keyword "WITH" do return none
  let comments ← pending
  let isRecursive ← keyword "RECURSIVE"
  let tables ← commonTables g
  let comments ← if comments.isEmpty then taken else pure comments
  return some ⟨comments, isRecursive, tables⟩

/-- Words of statements that can have named queries in front of them. -/
def changes : List String := ["DELETE FROM", "INSERT INTO", "INSERT OVERWRITE", "UPDATE"]

/-- A query with named queries in front of it; parentheses around all of the query do not
count. Only queries and changes can have them. -/
def withNamed (w : With Expr Query) : Query → Option Query
  | .select s => some (.select { s with with? := some w })
  | .nested q => withNamed w q
  | .commented (.nested q) _ => withNamed w q
  | .combined words comments left right => some (.with w (.combined words comments left right))
  | .aliased (.nested q) label => some (.with w (.aliased (.nested q) label))
  | .refined q c => some (.with w (.refined q c))
  | .commented (.aliased q label) comments =>
    some (.with w (.commented (.aliased q label) comments))
  | .expr (.phrase (.word word :: es)) =>
    if changes.contains word then some (.with w (.expr (.phrase (.word word :: es)))) else none
  | _ => none

/-! ## Selects -/

/-- A hint: a call or a word in capitals. -/
def hint : Parser (Option Expr) := do
  match ← function g true with
  | some e => return some e
  | none => capitalWord g

/-- The hints in the text of a comment, read by `tokens`; a text that is not made of hints is one
hint as it is. -/
def hintsOf (tokens : String → Option (List Token)) (text : String) : List Expr :=
  let found? := do
    let ts ← tokens text
    let (found, c) ← (many do
      let es ← separated (hint g)
      return if es.isEmpty then none else some es) (.start ts)
    if c.rest.isEmpty then some found.flatten else none
  found?.getD [.word (String.ofList (Text.trim text.toList))]

/-- Where sources come from: `FROM` and a source, whose comments stand before it. -/
def source : Parser (Option (Clause Query)) := do
  unless ← keyword "FROM" do return none
  let comments ← pending
  let q ← required (table g)
  let q :=
    match q with
    | .values rows => .nested (.values rows)
    | q => q
  let comments ← if comments.isEmpty then taken else pure comments
  return some ⟨comments, q⟩

/-- A source in front of a select, with its joins. -/
def leadingSource : Parser (Option (Clause Query)) := do
  let some c ← source g | return none
  let joins ← joins g
  return some { c with body := withJoins joins c.body }

/-- The table that a select puts its rows into. -/
def into : Parser (Option (Clause Query)) := do
  unless ← keyword "INTO" do return none
  let isTemporary ← keyword "TEMPORARY"
  discard <| reads ["UNLOGGED"]
  discard <| keyword "TABLE"
  let q ← required (tablePath g)
  return some ⟨if isTemporary then ["TEMPORARY"] else [], q⟩

/-- Whether equal rows count once, and by what. A select cannot ask for all rows as well. -/
def distinct : Parser (Option Expr) := do
  if (← second?).all (·.isSymbol ".") then return none
  let isAll ← keyword "ALL"
  unless ← keyword "DISTINCT" do return none
  if isAll then failure
  if ← keyword "ON" then
    let keys ← required (row g)
    return some (← made (.phrase [.word "DISTINCT", .word "ON", keys]))
  else return some (← made (.word "DISTINCT"))

/-- The words behind `AS` before the projected expressions; the first one may stand alone. -/
def selectWords : Parser (List String) := do
  unless ← keyword "AS" do return []
  match ← readsOf ["STRUCT", "VALUE"] with
  | some word => return ["AS", word]
  | none => return []

/-- A limit before the projected expressions. -/
def leadingLimit : Parser (Option (Clause Expr)) := do
  unless g.dialect.leadingLimit do return none
  unless ← reads ["TOP"] do return none
  let isWrapped ← symbol "("
  let count ← required (if isWrapped then g.term else g.primary)
  if isWrapped then expectSymbol ")"
  return some ⟨[], count⟩

/-- A select behind its first word. -/
def select (tokens : String → Option (List Token)) (first? : Option (Clause Query)) :
    Parser Select := do
  let comments ← pending
  let hints ← do
    if let some (.hint text) ← ahead? then
      advance
      pure (hintsOf g tokens text)
    else pure []
  let distinct? ← distinct g
  let words ← selectWords
  let limit? ← leadingLimit g
  let items ← separated g.item
  discard taken
  let into? ← into g
  let source? ← if first?.isSome then pure first? else source g
  let s : Select := ⟨none, comments, hints, distinct?, words, items, into?, source?,
    { ClausesOf.empty with limit? := limit? }⟩
  match ← clauses g (.select s) with
  | .select s => return s
  | _ => return s

/-- A select of everything from a source. -/
def selectAll (c : Clause Query) : Query :=
  .select { SelectOf.ofItems [.star] with source? := some ⟨[], c.body⟩ }

/-! ## Queries -/

/-- What stands between parentheses in the place of a query: a table where `isSource` allows it,
or a query, with its clauses. -/
def inner (tokens : String → Option (List Token)) (isSource : Bool) : Parser Query := do
  match ← source g with
  | some first =>
    if ← keyword "SELECT" then
      clauses g (← setOperations g (.select (← select g tokens (some first))))
    else clauses g (← setOperations g (selectAll first))
  | none =>
    let q ← required (if isSource then table g else g.query .operand)
    clauses g (← setOperations g q)

/-- A query between parentheses, behind the opening one, perhaps under a name. -/
def nested (tokens : String → Option (List Token)) (isSource : Bool) : Parser Query := do
  let q ← inner g tokens isSource
  expectSymbol ")"
  let named ← named g (.nested q)
  let q ← sampled g named
  return q.annotated (← taken)

/-- A query. -/
def query (tokens : String → Option (List Token)) (place : QueryPlace) :
    Parser (Option Query) := do
  if let some w ← withTables g then
    let q ← required g.statement
    match withNamed w q with
    | some q => return some q
    | none => failure
  let first? ← leadingSource g
  let combined (q : Query) : Parser (Option Query) := do
    if place == .operand then return some q else return some (← setOperations g q)
  if ← keyword "SELECT" then combined (.select (← select g tokens first?))
  else if ← pure (place != .alone) <&&> symbol "(" then
    return some (← nested g tokens (place == .source))
  else
    match ← values g, first? with
    | some q, _ => combined q
    | none, some first => combined (selectAll first)
    | none, none => return none

/-! ## Changes -/

/-- The rows that a change gives. -/
def returning : Parser (List Expr) := do
  if ← keyword "RETURNING" then return [.word "RETURNING", .listed (← separated g.item)]
  else return []

/-- The condition for the rows of a change. -/
def condition : Parser (List Expr) := do
  if ← keyword "WHERE" then return [.word "WHERE", ← required g.disjunction] else return []

/-- Rows that are put into a table. -/
def insert : Parser Query := do
  let isOverwritten ← keyword "OVERWRITE"
  discard <| keyword "INTO"
  discard <| keyword "TABLE"
  let path ← required (tablePath g)
  let columns ← do
    if ← symbol "(" then
      let names ← separated (certainName g)
      expectSymbol ")"
      pure [.tuple names]
    else pure []
  let rows ← required (g.query .source)
  let returned ← returning g
  let word := if isOverwritten then "INSERT OVERWRITE" else "INSERT INTO"
  return .expr (.phrase ([.word word, .query path] ++ columns ++ [.query rows] ++ returned))

/-- Rows that are deleted from a table. -/
def delete : Parser Query := do
  discard <| keyword "FROM"
  let q ← required (table g)
  let condition ← condition g
  let returned ← returning g
  return .expr (.phrase ([.word "DELETE FROM", .query q] ++ condition ++ returned))

/-- A table that is changed: its alias is not the word before the changes. -/
def changedTable : Parser Query := do
  let q ← required (tablePath g)
  let isAllowed (kind : String) : Bool :=
    Keyword.isName kind && kind != "SET" && !Keyword.noTableAlias.contains kind
  let q ← do
    match ← tableAliasWhere g isAllowed with
    | some label => pure (inside (.aliased · label) q)
    | none => pure q
  return withJoins (← joins g) q

/-- Rows of a table that are changed. -/
def update : Parser Query := do
  let q ← changedTable g
  unless ← keyword "SET" do failure
  let changes ← separated g.equality
  let source ← do
    match ← source g with
    | some c => pure [.word "FROM", .query c.body]
    | none => pure []
  let condition ← condition g
  let returned ← returning g
  return .expr (.phrase
    ([.word "UPDATE", .query q, .word "SET", .listed changes] ++ source ++ condition ++ returned))

/-- A statement: a query, a change, or an expression. -/
def statement : Parser (Option Query) := do
  if ← keyword "INSERT" then return some (← insert g)
  else if ← keyword "DELETE" then return some (← delete g)
  else if ← keyword "UPDATE" then return some (← update g)
  else
    match ← g.item with
    | some e =>
      match e.bare with
      | .query q => return some (← clauses g (← setOperations g (q.annotated e.comments)))
      | _ =>
        match ← setOperations g (.expr e) with
        | .expr e => return some (.expr e)
        | q => return some (← clauses g q)
    | none =>
      match ← g.query .alone with
      | some q => return some (← clauses g q)
      | none => return none

end

end Parser

/-- The readers for nesting up to a depth; `tokens` reads the text of a hint. -/
def Grammar.ofDepth (d : Dialect) (tokens : String → Option (List Token)) : Nat → Grammar
  | 0 => .nothing d
  | n + 1 =>
    let g := ofDepth d tokens n
    { dialect := d
      item := Parser.item g
      assignment := Parser.assignment g
      disjunction := Parser.disjunction g
      equality := Parser.equality g
      bitwise := Parser.bitwise g
      term := Parser.term g
      factor := Parser.factor g
      unary := Parser.unary g
      column := Parser.column g
      primary := Parser.primary g
      type := Parser.type g
      query := Parser.query g tokens
      setOperations := Parser.setOperations g
      clauses := Parser.clauses g
      table := Parser.table g
      statement := Parser.statement g }

/-- The readers for some tokens: their nesting cannot be deeper than a multiple of their number,
since every reader that is not the next lower one has read a token. -/
def Grammar.ofTokens (d : Dialect) (tokens : String → Option (List Token)) (ts : List Token) :
    Grammar :=
  .ofDepth d tokens (4 * ts.length + 8)

end QueryBook.Sql
