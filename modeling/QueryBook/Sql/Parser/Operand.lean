import QueryBook.Sql.Parser.Call

/-!
# Reading operands

An operand is a literal, a name, a call, a type with a string, an interval, or something in
parentheses, with what may stand directly behind it: fields, indices, casts and paths.
-/

namespace QueryBook.Sql

namespace Parser

section

variable (g : Grammar)

/-! ## Literals and parentheses -/

/-- The lexeme of a string, if one is ahead. -/
def textAhead : Parser (Option String) := do
  if let some (.text s) ← ahead? then
    advance
    return some s
  else return none

/-- Strings that follow each other, which are concatenated. -/
def texts (first : Expr) : Parser Expr := do
  match ← many textAhead with
  | [] => return first
  | more => made (.calling "CONCAT" (first :: more.map .text))

/-- Columns that a star leaves out, replaces or renames. -/
def starEdit (written : List String) (printed : String) : Parser (List Expr) := do
  unless (← readsOf written).isSome do return []
  let es ← do
    if ← sees (·.isSymbol "(") then wrapped (separated g.item)
    else pure (← aliased g true (← g.assignment)).toList
  return if es.isEmpty then [] else [.word printed, .tuple es]

/-- A star, behind it. -/
def star : Parser Expr := do
  let except ← starEdit g ["EXCEPT", "EXCLUDE"] "EXCEPT"
  let replace ← starEdit g ["REPLACE"] "REPLACE"
  let rename ← starEdit g ["RENAME"] "RENAME"
  match except ++ replace ++ rename with
  | [] => made .star
  | edits => made (.phrase (.star :: edits))

/-- What stands between parentheses, behind the opening one. -/
def parenthesized : Parser Expr := do
  let nested (q : Query) : Parser Expr := do
    let q ← g.clauses (← g.setOperations q)
    made (.query (.nested q))
  match ← g.query .alone with
  | some (.select s) => made (.query (.nested (.select s)))
  | some (.values rows) => nested (.values rows)
  | some (.aliased q label) => nested (.aliased q label)
  | some q => made (.query (.nested q))
  | none =>
    match ← separated g.item with
    | [] => if ← sees (·.isSymbol ")") then made (.tuple []) else failure
    | e :: es =>
      match e.bare with
      | .query q => nested (q.annotated e.comments)
      | _ =>
        if es.isEmpty && !(← last?).any (·.isSymbol ",") then made (.group e)
        else made (.tuple (e :: es))

/-- Whether an expression is the call of a function over a group. -/
def isAggregate (e : Expr) : Bool :=
  match e.bare with
  | .call (.plain f) _ => Function.aggregates.contains f
  | _ => false

/-- Something in parentheses, with the comments of both. -/
def parentheses : Parser (Option Expr) := do
  unless ← symbol "(" do return none
  let comments ← pending
  let e ← parenthesized g
  let e ← closed (e.annotated comments)
  match e.bare with
  | .group inner => if isAggregate inner then return some (← windowed g e) else return some e
  | _ => return some e

/-- A literal, a star, or something in parentheses. -/
def primary : Parser (Option Expr) := do
  match ← ahead? with
  | some (.text s) =>
    advance
    return some (← texts (← made (.text s)))
  | some (.number digits) =>
    advance
    return some (← made (.number digits))
  | some (.marked mark s) =>
    advance
    return some (← made (.marked mark s))
  | some (.keyword "NULL" _) =>
    advance
    return some (← made (.constant .null))
  | some (.keyword "TRUE" _) =>
    advance
    return some (← made (.constant .true))
  | some (.keyword "FALSE" _) =>
    advance
    return some (← made (.constant .false))
  | some (.symbol "*") =>
    advance
    return some (← star g)
  | some (.symbol ".") =>
    if let some (.number digits) ← second? then
      advance
      advance
      return some (.number ("0." ++ digits))
    else return none
  | _ => parentheses g

/-! ## Fields and indices -/

/-- An expression in brackets, perhaps the bounds of a slice. -/
def index : Parser (Option Expr) := do
  let finish : Parser Expr := return (← g.assignment).getD (.word "")
  if ← symbol ":" then return some (← made (.binary .slice (.word "") (← finish)))
  let some e ← aliased g true (← g.disjunction) | return none
  if ← symbol ":" then return some (← made (.binary .slice e (← finish)))
  else return some e

/-- The name of a column or of its last part. -/
def lastName : Expr → String
  | .name (.plain s) | .name (.quoted s) => s
  | .field _ (.name (.plain s)) | .field _ (.name (.quoted s)) => s
  | _ => ""

/-- Names of arrays and lists, which hold what stands in brackets behind them. -/
def arrayNames : List String := ["ARRAY", "LIST"]

/-- What stands in brackets behind an expression: indices, or elements where there is no
expression. Braces hold the fields of a structure, which does not need the expression. -/
def brackets (e? : Option Expr) : Parser (Option Expr) :=
  iterate (fun e? => do
    if ← symbol "\x7b" then
      let es ← separated (index g)
      expectSymbol "\x7d"
      return some (some (← made (.calling "STRUCT" (es.map fieldValue))))
    unless ← symbol "[" do return none
    let es ← separated (index g)
    expectSymbol "]"
    let e :=
      match e? with
      | none => .calling "ARRAY" es
      | some e =>
        let name := Text.upper (lastName e.bare)
        if arrayNames.contains name then .calling name es
        else Expr.annotated e.comments (.item e.bare es)
    return some (some (← made e))) e?

/-- What is found behind a point: a call, a literal or almost any token as a name. -/
def member : Parser Expr := do
  if let some e ← memberFunction g then return e
  if let some e ← primary g then return e
  required (certainName g)

/-- What is found under a member of an owner. The comments of both belong to the path, unless
the owner is no path and keeps its own. -/
def fieldOf (owner member : Expr) : Parser Expr := do
  let field ←
    if member.bare.isCall then
      let owner := if owner.isColumn then owner.bare else owner
      made (.field owner member.bare)
    else
      let isColumn := (Expr.field owner.bare member.bare).isColumn
      if isColumn then madeWith owner.comments (.field owner.bare member.bare)
      else made (.field owner member.bare)
  return field.annotated member.comments

/-- A name, call or literal, without what follows it. -/
def reference : Parser (Option Expr) := do
  if let some e ← primary g then return some e
  if let some e ← function g true then return some e
  if let some e ← name g then return some e
  let isFree := !(← second?).any (·.isSymbol "(")
  if ← pure isFree <&&> sees (·.isKeyword "VALUES") then certainName g else return none

/-- Signs between an expression and what is looked for in it. -/
def lookups : List String := ["->", "->>", "#>", "#>>", "?"]

/-- What is found in an expression by a sign and what stands behind it. -/
def lookup (mark : String) (e key : Expr) : Expr :=
  match mark with
  | "->" => .calling "JSON_EXTRACT" [e, documentPath key]
  | "->>" => .calling "JSON_EXTRACT_SCALAR" [e, documentPath key]
  | "#>" => .binary .path e key
  | "#>>" => .binary .pathText e key
  | _ => .binary .hasKey e key

/-- The fields and casts behind an expression, without brackets before the first. -/
def suffixes (e : Expr) : Parser Expr :=
  iterate (fun e => do
    let found? ← do
      if ← symbol "." then pure (some (← fieldOf e (← member g)))
      else if ← symbol "::" then
        let t ← required (g.type false)
        pure (some (← made (.cast false e t)))
      else pure none
    match found? with
    | none => return none
    | some e => return (← brackets g (some e))) e

/-- The fields, casts and paths behind an expression. -/
def columnOps (e : Expr) : Parser Expr := do
  let some e ← brackets g (some e) | return e
  let e ← suffixes g e
  iterate (fun e => do
    let some (.symbol mark) ← ahead? | return none
    unless lookups.contains mark do return none
    advance
    let key ← do
      match ← reference g with
      | some key =>
        if ← pure key.isColumn <&&> sees (·.isSymbol ".") then suffixes g key else pure key
      | none => required g.bitwise
    let e ← made (lookup mark e key.bare)
    let some e ← brackets g (some (e.annotated key.comments)) | return none
    return some (← suffixes g e)) e

/-- A name, call or literal with what follows it. -/
def column : Parser (Option Expr) := do
  match ← reference g with
  | some e => return some (← columnOps g e)
  | none => brackets g none

/-! ## Intervals and typed strings -/

/-- Units of time. -/
def units : List String :=
  ["CENTURY", "CENTURIES", "D", "DAY", "DAYOFMONTH", "DAYOFWEEK", "DAYOFYEAR", "DAYS", "DD",
   "DECADE", "DECADES", "DOW", "DOY", "DW", "DY", "EPOCH", "EPOCH_SECOND", "H", "HH", "HOUR",
   "HOURS", "HR", "HRS", "ISODOW", "ISOYEAR", "M", "MI", "MICROSEC", "MICROSECOND",
   "MICROSECONDS", "MICROSECS", "MILLENIUM", "MILLENNIUM", "MILLISEC", "MILLISECOND",
   "MILLISECONDS", "MILLISECS", "MIN", "MINS", "MINUTE", "MINUTES", "MM", "MON", "MONS", "MONTH",
   "MONTHS", "MS", "MSEC", "MSECOND", "MSECONDS", "MSECS", "NANOSEC", "NANOSECOND",
   "NANOSECONDS", "NANOSECS", "NS", "NSEC", "NSECOND", "NSECONDS", "Q", "QTR", "QTRS", "QUARTER",
   "QUARTERS", "S", "SEC", "SECOND", "SECONDS", "SECS", "TIMEZONE_HOUR", "TIMEZONE_MINUTE", "TZH",
   "TZM", "US", "USEC", "USECOND", "USECONDS", "USECS", "W", "WEEK", "WEEKDAY", "WEEKDAY_ISO",
   "WEEKOFYEAR", "WEEK_ISO", "WK", "WOY", "Y", "YEAR", "YEARS", "YR", "YRS", "YY", "YYY", "YYYY"]

/-- A number and a unit at the beginning of a text, and what follows them. -/
def amount? (cs : List Char) : Option ((List Char × List Char) × List Char) :=
  let cs := cs.dropWhile Text.isBlank
  let (sign, cs) := match cs with
    | '-' :: cs => (['-'], cs)
    | cs => ([], cs)
  let whole := cs.takeWhile Char.isDigit
  let cs := cs.dropWhile Char.isDigit
  let (fraction, cs) := match cs with
    | '.' :: cs =>
      let digits := cs.takeWhile Char.isDigit
      if digits.isEmpty then ([], '.' :: cs) else ('.' :: digits, cs.dropWhile Char.isDigit)
    | cs => ([], cs)
  let cs := cs.dropWhile Text.isBlank
  let unit := cs.takeWhile Char.isAlpha
  if whole.isEmpty || unit.isEmpty then none
  else some ((sign ++ whole ++ fraction, unit), (cs.dropWhile Char.isAlpha).dropWhile Text.isBlank)

/-- Numbers with units in a text. Of several, only their number matters. -/
def amounts : Nat → List Char → List (List Char × List Char)
  | 0, _ => []
  | _, [] => []
  | n + 1, c :: cs =>
    match amount? (c :: cs) with
    | some (found, rest) => found :: amounts n rest
    | none => amounts n cs

/-- The unit of an interval as it is printed. -/
def printedUnit (e : Expr) : Expr :=
  match e with
  | .word s => .word (Function.unit (Text.upper s))
  | .commented (.word s) comments => .commented (.word (Function.unit (Text.upper s))) comments
  | _ => e

/-- The value of an interval, in parentheses unless it is a name, a literal or a negative. -/
def intervalValue (e : Expr) : Expr :=
  match e.bare with
  | .number digits => Expr.annotated e.comments (.text digits)
  | .text _ | .group _ | .unary .negative _ => e
  | _ => if e.isColumn then e else .group e

/-- The unit behind the value of an interval. -/
def intervalUnit : Parser (Option Expr) := do
  if let some e ← function g true then return some e
  if ← sees (·.isKeyword "AS") then return none
  certainWord g

/-- An interval behind its word: a value and a unit, which may both stand in a string. Without
them it is no interval, and the answer is none. -/
def intervalBody : Parser (Option Expr) := do
  let some value ← (do
      if ← sees fun l => match l with | .text _ => true | _ => false then primary g
      else g.term) | return none
  if let .name (.plain _) := value.bare then
    if (← ahead?).any fun l => !units.contains (Text.upper l.content) then return none
  let c ← get
  let unit? ← intervalUnit g
  let (value, unit?) ← do
    match value.bare with
    | .text s =>
      match amounts s.length s.toList with
      | [] => pure (value, unit?)
      | found =>
        if unit?.isSome then retreat c
        match found with
        | [(digits, unit)] =>
          let unit ← made (.word (Text.upper (String.ofList unit)))
          pure (.text (String.ofList digits), some unit)
        | _ => pure (value, none)
    | _ => pure (value, unit?)
  let span ← do
    if ← reads ["TO"] then pure (.word "TO" :: (← intervalUnit g).toList.map printedUnit)
    else pure []
  let parts := [.word "INTERVAL", intervalValue value] ++ unit?.toList.map printedUnit ++ span
  return some (← made (.phrase parts))

/-- Intervals behind their word, which may follow each other, perhaps with plus signs. -/
def intervals : Parser (Option Expr) := do
  let some first ← intervalBody g | return none
  let more ← iterate (fun more => do
    let c ← get
    discard <| symbol "+"
    unless ← sees fun l => match l with | .text _ | .number _ => true | _ => false do
      retreat c
      return none
    return some ((← required (intervalBody g)) :: more)) []
  match more with
  | [] => return some first
  | last :: before =>
    let sum := (before.reverse).foldr (fun e sum => Expr.binary .add e sum) last
    return some (← made (.binary .add first sum))

/-- An interval. -/
def interval : Parser (Option Expr) := do
  let c ← get
  unless ← keyword "INTERVAL" do return none
  match ← intervals g with
  | some e => return some e
  | none =>
    retreat c
    return none

/-- Whether a type cannot be the name of a column, since it has arguments. -/
def hasArguments (t : Expr) : Bool :=
  match t with
  | .type _ arguments _ => !arguments.isEmpty
  | _ => false

/-- A literal as the type before it. -/
def typed (t e : Expr) : Parser Expr :=
  match t with
  | .type "JSON" [] _ => made (.calling "PARSE_JSON" [e])
  | _ => made (.cast false e t)

/-- A type with a literal behind it, or a type that can be no column. -/
def typedLiteral : Parser (Option Expr) := do
  let c ← get
  let some t ← type g true | return none
  let behind ← get
  match ← primary g with
  | some e =>
    match e.bare with
    | .text _ | .number _ => return some (← typed t (← columnOps g e))
    | _ => pure ()
  | none => pure ()
  if hasArguments t && c.rest.length > behind.rest.length + 1 then
    retreat behind
    return some (← columnOps g t)
  else
    retreat c
    return none

/-- An operand. -/
def operand : Parser (Option Expr) := do
  if let some e ← interval g then return some (← columnOps g e)
  if let some e ← typedLiteral g then return some e
  column g

end

end Parser

end QueryBook.Sql
