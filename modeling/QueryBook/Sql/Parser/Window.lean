import QueryBook.Sql.Function
import QueryBook.Sql.Parser.Name

/-!
# Reading what follows a call

Sort keys, and what may stand behind the call of a function: a filter, whether nulls count, and
the window over which it is computed.
-/

namespace QueryBook.Sql

namespace Parser

section

variable (g : Grammar)

/-! ## Sort keys -/

/-- A sort key. Nulls are where the dialect has them, unless it is said. -/
def sortKey : Parser (Option Expr) := do
  let some key ← g.disjunction | return none
  let ascending ← keyword "ASC"
  let descending ← keyword "DESC"
  let direction :=
    if descending then some Direction.descending
    else if ascending then some .ascending else none
  let nullsFirst ← reads ["NULLS", "FIRST"]
  let nullsLast ← reads ["NULLS", "LAST"]
  let firstAnyway := !nullsFirst && !nullsLast && descending == g.dialect.nullsLarge
  return some (← made (.sorted key direction (nullsFirst || firstAnyway)))

/-- The sort keys behind `ORDER BY`, of which there must be one, if these words follow. -/
def order : Parser (Option Expr) := do
  unless ← keyword "ORDER BY" do return none
  return some (.listed (← someOf (separated (sortKey g))))

/-! ## Nulls -/

/-- Words about nulls behind an expression. -/
def nullsWords : Parser (Option String) := do
  if ← reads ["IGNORE", "NULLS"] then return some "IGNORE NULLS"
  else if ← reads ["RESPECT", "NULLS"] then return some "RESPECT NULLS"
  else return none

/-- An expression with words about nulls behind it, if there are any. -/
def withNulls (e? : Option Expr) : Parser (Option Expr) := do
  match ← nullsWords, e? with
  | none, _ => return e?
  | some _, none => failure
  | some words, some e => return some (← made (e.trailed words))

/-! ## Windows -/

/-- Kinds of keywords that can name a window. -/
def isWindowName (kind : String) : Bool :=
  Keyword.isName kind && kind ∉ ["RANGE", "ROWS"]

/-- A bound of the rows of a window. -/
def bound : Parser Expr := do
  discard <| keyword "BETWEEN"
  let value ← do
    if ← reads ["UNBOUNDED"] then pure [.word "UNBOUNDED"]
    else if ← reads ["CURRENT", "ROW"] then pure [.word "CURRENT ROW"]
    else pure (← g.bitwise).toList
  let side ← readsOf ["FOLLOWING", "PRECEDING"]
  let side ← if side.isSome then pure [.word (← lastContent)] else pure []
  return .phrase (value ++ side)

/-- Which rows a window leaves out. -/
def exclusion : Parser (List Expr) := do
  unless ← reads ["EXCLUDE"] do return []
  if ← reads ["NO", "OTHERS"] then return [.word "EXCLUDE NO OTHERS"]
  else if ← reads ["CURRENT", "ROW"] then return [.word "EXCLUDE CURRENT ROW"]
  else if ← reads ["GROUP"] then return [.word "EXCLUDE GROUP"]
  else if ← reads ["TIES"] then return [.word "EXCLUDE TIES"]
  else failure

/-- The rows around the current one that a window looks at. -/
def frame : Parser (List Expr) := do
  unless (← keywordOf ["RANGE", "ROWS"]).isSome do return []
  let kind ← lastContent
  discard <| keyword "BETWEEN"
  let start ← bound g
  let finish ← if ← keyword "AND" then bound g else pure (.word "CURRENT ROW")
  return [.word kind, .word "BETWEEN", start, .word "AND", finish] ++ (← exclusion)

/-- A window, behind the opening parenthesis. A window that is only named is its name. -/
def window : Parser Expr := do
  let base ← nameWhere g false isWindowName
  let partition ← do
    if ← keyword "PARTITION BY" then
      pure [.word "PARTITION BY", .listed (← separated g.disjunction)]
    else pure []
  let order ← do
    match ← order g with
    | some keys => pure [.word "ORDER BY", keys]
    | none => pure []
  let frame ← frame g
  expectSymbol ")"
  match base, partition ++ order ++ frame with
  | some base, [] => return base
  | base, parts => return .group (.phrase (base.toList ++ parts))

/-- A window by its name, or in parentheses. -/
def windowOrName : Parser Expr := do
  if ← symbol "(" then window g
  else return (← nameWhere g false Keyword.isName).getD (.group (.phrase []))

/-- A window with its name before it. -/
def namedWindow : Parser (Option Expr) := do
  let some n ← certainName g | return none
  discard <| keyword "AS"
  return some (← made (n.related "AS" (← windowOrName g)))

/-! ## Calls -/

/-- An argument without words about nulls behind it, and these words. -/
def splitNulls : Expr → Expr × List Expr
  | .phrase [e, .word words] =>
    if ["IGNORE NULLS", "RESPECT NULLS"].contains words then (e, [.word words])
    else (.phrase [e, .word words], [])
  | e => (e, [])

/-- A call without words about nulls among its arguments, and these words; they belong behind the
call of a function over a group. -/
def outerNulls : Expr → Expr × List Expr
  | .call (.plain f) arguments =>
    if Function.aggregates.contains f then
      let split := arguments.map fun e => splitNulls e.bare
      match split.flatMap Prod.snd with
      | [] => (.call (.plain f) arguments, [])
      | words => (.call (.plain f) (split.map Prod.fst), words.take 1)
    else (.call (.plain f) arguments, [])
  | e => (e, [])

/-- The order in which a group is looked at. -/
def groupOrder : Parser (List Expr) := do
  unless ← reads ["WITHIN", "GROUP"] do return []
  let keys ← wrapped (required (order g))
  return [.word "WITHIN GROUP", .group (.phrase [.word "ORDER BY", keys])]

/-- The condition for the rows of a call. -/
def filter : Parser (List Expr) := do
  unless ← acceptBoth (·.isKeyword "FILTER") (·.isSymbol "(") do return []
  discard <| keyword "WHERE"
  let condition ← required g.disjunction
  expectSymbol ")"
  return [.calling "FILTER" [.phrase [.word "WHERE", condition]]]

/-- A call with what follows it. If it has a window, the comments of the call stand behind the
window. -/
def windowed (call : Expr) : Parser Expr := do
  let order ← groupOrder g
  let filter ← filter g
  let (inner, nulls) := outerNulls call.bare
  let more ← nullsWords
  let nulls := nulls ++ more.toList.map .word
  let comments ← if nulls.isEmpty then pure [] else taken
  let all (inner : Expr) : Expr :=
    match order ++ filter ++ nulls with
    | [] => inner
    | parts => Expr.annotated comments (.phrase (inner :: parts))
  unless ← keyword "OVER" do return all (Expr.annotated call.comments inner)
  let window ← windowOrName g
  madeWith call.comments ((all inner).related "OVER" window)

end

end Parser

end QueryBook.Sql
