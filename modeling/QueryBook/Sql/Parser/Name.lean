import QueryBook.Sql.Parser.Core

/-!
# Reading names

A name is a word, a quoted name or a placeholder. Most keywords can be names; where a name is
certain to follow, as behind `AS`, almost any token is one. An alias without `AS` cannot be
`LIMIT` or `OFFSET` where these begin a clause.
-/

namespace QueryBook.Sql

namespace Parser

section

variable (g : Grammar)

/-! ## Names -/

/-- A placeholder that is a single mark, or a mark and a word. -/
def mark : Parser (Option Expr) := do
  let c ← get
  if ← symbol "?" then return some (← made (.name .anonymous))
  unless ← symbol ":" do return none
  match ← ahead? with
  | some (.word s) | some (.keyword _ s) =>
    advance
    return some (← made (.name (.bound s)))
  | _ =>
    retreat c
    return none

/-- A quoted name or a mark. -/
def quotedOrMark : Parser (Option Expr) := do
  if let some (.quoted s) ← ahead? then
    advance
    return some (← made (.name (.quoted s)))
  else mark

/-- What a variable is named by, behind its signs. -/
def variableName : Parser Expr := do
  if let some e ← quotedOrMark then return e
  if let some e ← g.primary then return e
  unless ← accept (!·.isNoName) do failure
  return .word (← lastContent)

/-- A placeholder: a mark, or a variable behind an at sign or several. -/
def placeholder : Parser (Option Expr) := do
  match ← many do if ← symbol "@" then return some () else return none with
  | [] => mark
  | signs =>
    let e ← signs.foldlM (fun e _ => made (.variable e)) (← variableName g)
    return some e

/-- A quoted name or a placeholder. -/
def identifier : Parser (Option Expr) := do
  if let some e ← quotedOrMark then return some e
  placeholder g

/-- Whether a lexeme is a word that is no keyword, or a keyword of an allowed kind. -/
def isWordOf (isAllowed : String → Bool) : Lexeme → Bool
  | .word _ => true
  | .keyword kind _ => isAllowed kind
  | _ => false

/-- A name that is a word of the given kind, or almost any token where the name is certain. -/
def nameWhere (isCertain : Bool) (isAllowed : String → Bool) : Parser (Option Expr) := do
  if let some e ← identifier g then return some e
  unless ← accept fun l => isCertain && !l.isNoName || isWordOf isAllowed l do return none
  match ← last? with
  | some (.text s) => return some (← made (.name (.quoted s)))
  | some l => return some (← made (.name (.plain l.content)))
  | none => return none

/-- A name. -/
def name : Parser (Option Expr) :=
  nameWhere g false Keyword.isName

/-- A name where a name is certain to follow. -/
def certainName : Parser (Option Expr) :=
  nameWhere g true Keyword.isName

/-- A string in the place of a name. -/
def textName : Parser (Option Expr) := do
  if let some (.text s) ← ahead? then
    advance
    return some (.name (.quoted s))
  else return none

/-- A word that stands for itself; almost any token where it is certain. -/
def wordWhere (isCertain : Bool) (isAllowed : String → Bool) : Parser (Option Expr) := do
  if ← accept fun l => isCertain && !l.isNoName || isWordOf isAllowed l then
    return some (← made (.word (← lastContent)))
  else placeholder g

/-- A word in capitals that is no keyword. -/
def capitalWord : Parser (Option Expr) :=
  return (← wordWhere g false fun _ => false).map capital
where
  /-- The same with a word in capitals. -/
  capital : Expr → Expr
    | .word s => .word (Text.upper s)
    | .commented (.word s) comments => .commented (.word (Text.upper s)) comments
    | e => e

/-- A word in capitals where it is certain to follow. -/
def certainWord : Parser (Option Expr) :=
  return (← wordWhere g true fun _ => false).map capitalWord.capital

/-! ## Limits -/

/-- A limit, in either spelling, and the offset that it may hold. -/
inductive Limit where
  | limit (clause : Clause Expr) (offset? : Option Expr)
  | fetch (e : Expr)

/-- Words behind the count of a limit. -/
def limitOptions : Parser (List Expr) := do
  let percent ← keyword "PERCENT" <||> symbol "%"
  let rows := (← keywordOf ["ROW", "ROWS"]).isSome
  discard <| reads ["ONLY"]
  let ties ← reads ["WITH", "TIES"]
  let options :=
    [("PERCENT", percent), ("ROWS", rows), ("WITH TIES", ties), ("ONLY", rows && !ties)]
  return options.filterMap fun option => if option.2 then some (.word option.1) else none

/-- What a limit or an offset counts for each of. -/
def limitGroups (e : Expr) : Parser Expr := do
  if ← reads ["BY"] then return e.related "BY" (.listed (← separated g.bitwise))
  else return e

/-- An expression with words behind it, if there are any. -/
def withWords (e : Expr) (ws : List Expr) : Expr :=
  if ws.isEmpty then e else .phrase (e :: ws)

/-- The count of a limit; a percent sign behind it is no operator. -/
def limitCount : Parser (Option Expr) := do
  let c ← get
  match ← attempt g.term with
  | none => g.factor
  | some e =>
    if let .binary .remainder _ _ := e.bare then
      retreat c
      g.factor
    else return some e

/-- A limit. -/
def limit : Parser (Option Limit) := do
  if ← keyword "LIMIT" then
    let comments ← pending
    let first ← limitCount g
    let options ← limitOptions
    let (count, offset?) ← do
      if ← symbol "," then pure (← g.term, first) else pure (first, none)
    let some count := count | failure
    let body ← limitGroups g (withWords count options)
    let comments ← if comments.isEmpty then taken else pure comments
    return some (.limit ⟨comments, body⟩ offset?)
  else if ← keyword "FETCH" then
    let direction := (← keywordOf ["FIRST", "NEXT"]).getD "FIRST"
    let isCount (kind : String) : Bool :=
      Keyword.isName kind && kind ∉ ["PERCENT", "ROW", "ROWS"]
    let count ← do
      match ← g.primary with
      | some e => pure (some e)
      | none => nameWhere g false isCount
    let options ← limitOptions
    let options := if options.isEmpty then [.word "ROWS ONLY"] else options
    return some (.fetch (.phrase (.word direction :: count.toList ++ options)))
  else return none

/-- An offset. -/
def offset : Parser (Option Expr) := do
  unless ← keyword "OFFSET" do return none
  let count ← required g.term
  discard <| keywordOf ["ROW", "ROWS"]
  return some (← limitGroups g count)

/-- Whether a limit or an offset begins. A limit always does; an offset without a count is a
name. -/
def beginsLimit : Parser Bool :=
  sees (·.isKeyword "LIMIT") <||> finds (offset g)

/-! ## Aliases -/

/-- An expression under another name; comments behind the expression stand behind the name,
unless that has comments of its own. -/
def renamed (e label : Expr) (comments : List String) : Parser Expr := do
  let made ← madeWith (comments ++ label.comments) (.aliased e label.bare)
  if made.comments.isEmpty then return Expr.annotated e.comments (.aliased e.bare label.bare)
  else return made

/-- An expression with an alias behind it, if there is one; `isExplicit` tells whether it must
be announced by `AS`. -/
def aliased (isExplicit : Bool) (e? : Option Expr) : Parser (Option Expr) := do
  if ← beginsLimit g then return e?
  let isAnnounced ← keyword "AS"
  let comments ← pending
  if isExplicit && !isAnnounced then return e?
  if ← symbol "(" then
    let names ← someOf (separated (nameWhere g isAnnounced Keyword.isName))
    let some e := e? | failure
    return some (← closed (← madeWith comments (.aliased e (.tuple names))))
  let label? ← do
    match ← nameWhere g isAnnounced Keyword.isName with
    | some label => pure (some label)
    | none => if g.dialect.textAliases then textName else pure none
  match label?, e? with
  | none, _ => return e?
  | some _, none => failure
  | some label, some e => return some (← renamed e label comments)

/-- A column in the list behind an alias, perhaps with its type. -/
def aliasColumn : Parser (Option Expr) := do
  let some e ← certainName g | return none
  discard <| keyword "AS"
  match ← g.type false with
  | some t => return some (.phrase [e, t])
  | none => return some e

/-- The columns behind the alias of a table, unless there are none. -/
def aliasColumns : Parser (List Expr) := do
  let c ← get
  unless ← symbol "(" do return []
  let columns ← separated (aliasColumn g)
  if columns.isEmpty then retreat c else expectSymbol ")"
  return columns

/-- A name with columns in parentheses directly behind it. -/
def withColumns (e? : Option Expr) (columns : List Expr) : Expr :=
  match e?, columns with
  | some e, [] => e
  | some (.name n), columns => .call n columns
  | some e, columns => .phrase [e, .tuple columns]
  | none, columns => .tuple columns

/-- The alias of a table, perhaps with names for its columns. Without `AS` it is a word of the
given kind. -/
def tableAliasWhere (isAllowed : String → Bool) : Parser (Option Expr) := do
  if ← beginsLimit g then return none
  let isAnnounced ← keyword "AS"
  let label? ← do
    match ← nameWhere g isAnnounced isAllowed with
    | some label => pure (some label)
    | none => textName
  let columns ← aliasColumns g
  if label?.isNone && columns.isEmpty then return none
  let made ← made (withColumns (label?.map Expr.bare) columns)
  return some (made.annotated ((label?.map Expr.comments).getD []))

/-- The alias of a table. -/
def tableAlias : Parser (Option Expr) :=
  tableAliasWhere g fun kind => Keyword.isName kind && !Keyword.noTableAlias.contains kind

end

end Parser

end QueryBook.Sql
