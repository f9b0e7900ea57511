import QueryBook.Sql.Parser.Name

/-!
# Reading types

A type is a keyword, perhaps with sizes in parentheses or with other types between angle
brackets, or any other name, which is a type of the user. Where an operand may stand in its
place, only keywords are types, and sizes must be followed by a string, since a call looks the
same.
-/

namespace QueryBook.Sql

namespace Parser

/-- Types whose arguments are fields. -/
def fieldTypes : List String := ["OBJECT", "STRUCT", "UNION"]

/-- Types of integers and other numbers, each without and with a sign. -/
def unsignedTypes : List (String × String) :=
  [("BIGINT", "UBIGINT"), ("DECIMAL", "UDECIMAL"), ("DOUBLE", "UDOUBLE"), ("INT", "UINT"),
   ("MEDIUMINT", "UMEDIUMINT"), ("SMALLINT", "USMALLINT"), ("TINYINT", "UTINYINT")]

/-- What a type begins with: the kind of a keyword, or the name of a type of the user. -/
inductive TypeHead where
  | kind (kind : String)
  | user (name : String)
  deriving DecidableEq, Repr

namespace TypeHead

/-- Whether the type holds others. -/
def isNested : TypeHead → Bool
  | kind k => Keyword.nestedTypes.contains k
  | user _ => false

/-- Whether the type holds fields. -/
def hasFields : TypeHead → Bool
  | kind k => fieldTypes.contains k
  | user _ => false

/-- Whether the type is of the kind. -/
def isKind (expected : String) : TypeHead → Bool
  | kind k => k == expected
  | user _ => false

/-- The printed name of the type. -/
def printed : TypeHead → String
  | kind k => Keyword.typeName k
  | user name => name

end TypeHead

section

variable (g : Grammar)

/-- The further parts of the name of a type. -/
def typePath (first : String) : Parser String :=
  iterate (fun path => do
    unless ← symbol "." do return none
    unless ← accept (!·.isNoName) do failure
    return some (path ++ "." ++ (← lastContent))) first

/-- What a type begins with. -/
def typeHead (isOperand : Bool) : Parser (Option TypeHead) := do
  if let some (.keyword kind _) ← ahead? then
    if Keyword.isType kind then
      advance
      return some (.kind kind)
  if isOperand then return none
  match ← nameWhere g false fun _ => false with
  | some e =>
    match e.bare with
    | .name (.quoted s) =>
      match (Keyword.kind? (Text.upper s)).filter Keyword.isType with
      | some kind => return some (.kind kind)
      | none => return some (.user (← typePath s))
    | .name (.plain s) => return some (.user (← typePath s))
    | _ => return none
  | none => return none

/-- A size in parentheses behind a type, perhaps with a word behind it. -/
def typeSize : Parser (Option Expr) := do
  let some size ← g.unary | return none
  let size :=
    match size with
    | .name (.plain s) | .name (.quoted s) => Expr.word (Text.upper s)
    | _ => size
  match ← wordWhere g true fun _ => false with
  | some w => return some (.phrase [size, w])
  | none => return some size

/-- A field of a type: a name and its type. -/
def typeField (isOperand : Bool) : Parser (Option Expr) := do
  let c ← get
  let name? ← certainName g
  discard <| symbol ":"
  match name?, ← g.type isOperand with
  | some name, some t => return some (.phrase [name, t])
  | _, _ =>
    retreat c
    g.type isOperand

/-- What a type holds. -/
def typeArguments (head : TypeHead) (isOperand : Bool) : Parser (List Expr) :=
  if head.hasFields then separated (typeField g isOperand)
  else separated (g.type isOperand)

/-- The arguments in parentheses behind a type. -/
def typeSizes (head : TypeHead) (isOperand : Bool) : Parser (List Expr) :=
  if head.isNested then typeArguments g head isOperand
  else if head.isKind "ENUM" then separated g.equality
  else separated (typeSize g)

/-- Whether words about the time zone follow, and the kind of the type with them. -/
def timeZone (kind : String) : Parser (Option String) := do
  unless Keyword.timeTypes.contains kind do return none
  if ← reads ["WITH", "TIME", "ZONE"] then
    return some (if ["TIME", "TIMETZ"].contains kind then "TIMETZ" else "TIMESTAMPTZ")
  else if ← reads ["WITH", "LOCAL", "TIME", "ZONE"] then return some "TIMESTAMPLTZ"
  else if ← reads ["WITHOUT", "TIME", "ZONE"] then return some kind
  else return none

/-- The type of a keyword, with what may be said of its sign and its zone. -/
def headType (head : TypeHead) (arguments : List Expr) : Parser Expr := do
  match head with
  | .user name => return .type name arguments false
  | .kind kind =>
    if kind == "INTERVAL" then
      match ← capitalWord g with
      | none => return .type kind [] false
      | some unit =>
        if ← reads ["TO"] then
          return .phrase ([.word kind, unit, .word "TO"] ++ (← capitalWord g).toList)
        else return .phrase [.word kind, unit]
    else if ← reads ["UNSIGNED"] then
      let some kind := unsignedTypes.lookup kind | failure
      return .type kind arguments false
    else return .type (Keyword.typeName kind) arguments head.isNested

/-- The arrays of a type: brackets without anything between them, behind the type. The word may
stand before the first brackets or instead of them. -/
def typeArrays (t : Expr) : Parser Expr := do
  let lists ← many do if ← keyword "LIST" then return some () else return none
  let t := lists.foldl (fun t _ => Expr.type "LIST" [t] true) t
  let c ← get
  let isWord ← keyword "ARRAY"
  let r ← iterate (fun (r : Expr × Bool × Bool) => do
    let (t, isWord, isDone) := r
    if isDone || (← ahead?).isNone then return none
    let isArray := (← last?).any (·.isKeyword "ARRAY")
    let isOpen ← symbol "["
    if !isOpen && !isWord then return none
    if ← pure (isArray && isOpen) <&&> symbol "]" then return some (t, false, true)
    let found ← if isOpen then separated g.disjunction else pure []
    if !found.isEmpty then
      retreat c
      return some (t, false, true)
    discard <| symbol "]"
    return some (.type "ARRAY" [t] true, false, false)) (t, isWord, false)
  return r.1

/-- A type with all that stands behind it, its values included. -/
def type (isOperand : Bool) : Parser (Option Expr) := do
  let c ← get
  let some head ← typeHead g isOperand | return none
  let hasSizes ← symbol "("
  let sizes ← if hasSizes then typeSizes g head isOperand else pure []
  if ← pure hasSizes <&&> notM (symbol ")") then
    retreat c
    return none
  let isAngled ← if head.isNested then symbol "<" else pure false
  let arguments ← if isAngled then typeArguments g head isOperand else pure sizes
  if isAngled then expectSymbol ">"
  let (head, isZoned) ←
    match head with
    | .kind kind => do
      match ← timeZone kind with
      | some kind => pure (.kind kind, true)
      | none => pure (head, false)
    | .user _ => pure (head, false)
  if hasSizes && !isZoned && isOperand then
    unless ← sees fun l => match l with | .text _ => true | _ => false do
      retreat c
      return none
  if head.isKind "NULLABLE" && arguments.isEmpty then
    retreat c
    return none
  let t ← typeArrays g (← headType g head arguments)
  return some t

end

end Parser

end QueryBook.Sql
