import QueryBook.Sql.Parser.Type
import QueryBook.Sql.Parser.Window

/-!
# Reading calls

Calls of functions. Some functions have a grammar of their own between the parentheses, some are
words without parentheses, and some stand for other expressions, into which their calls turn. A
function that is known must accept the number of its arguments; one that is not known may have
arguments with aliases.
-/

namespace QueryBook.Sql

namespace Parser

section

variable (g : Grammar)

/-! ## Arguments -/

/-- The parameters before an arrow, or what looks like them. -/
def parameters : Parser (List Expr) := do
  let c ← get
  if ← symbol "(" then
    let names ← separated (certainName g)
    unless ← symbol ")" do retreat c
    return names
  else return (← certainName g).toList

/-- An expression, or a query where its word begins one; either may be combined with further
queries. -/
def queryOr (p : Parser (Option Expr)) : Parser (Option Expr) := do
  if let some q ← g.query .alone then return some (.query q)
  let some e ← p | return none
  match e.bare with
  | .query q => return some (Expr.annotated e.comments (.query (← g.setOperations q)))
  | _ => return some e

/-- What stands before the words of an argument. -/
def argumentBody (canAlias : Bool) : Parser (Option Expr) := do
  if ← keyword "DISTINCT" then
    let es ← someOf (separated g.disjunction)
    return some (← made (.phrase [.word "DISTINCT", .listed es]))
  else
    discard <| keyword "ALL"
    queryOr g do
      let e? ← g.assignment
      if canAlias then aliased g true e? else return e?

/-- The part of the group that an argument looks at. -/
def havingBound (e? : Option Expr) : Parser (Option Expr) := do
  unless ← keyword "HAVING" do return e?
  let side := (← readsOf ["MAX", "MIN"]).getD "MAX"
  let key ← required g.column
  let some e := e? | failure
  return some (← made (e.related ("HAVING " ++ side) key))

/-- The order in which an argument is looked at. -/
def withOrder (e? : Option Expr) : Parser (Option Expr) := do
  let some keys ← order g | return e?
  return some (← made (.phrase (e?.toList ++ [.word "ORDER BY", keys])))

/-- How many of an argument are looked at. -/
def withLimit (e? : Option Expr) : Parser (Option Expr) := do
  match ← limit g with
  | none => return e?
  | some (.limit ⟨comments, body⟩ offset?) =>
    let body := .listed (offset?.toList ++ [body])
    return some (Expr.annotated comments (.phrase (e?.toList ++ [.word "LIMIT", body])))
  | some (.fetch e) => return some e

/-- An argument of a call, with the words that may follow it. -/
def argument (canAlias : Bool) : Parser (Option Expr) := do
  let c ← get
  let names ← parameters g
  if ← symbol "->" then
    let body ← required g.disjunction
    let names :=
      match names with
      | [name] => name
      | names => .tuple names
    return some (← made (.binary .leadsTo names body))
  if ← symbol "=>" then
    let value ← required g.disjunction
    match names.map Expr.bare with
    | .name (.plain s) :: _ | .name (.quoted s) :: _ | .name (.bound s) :: _ =>
      return some (← made (.binary .argument (.word s) value))
    | _ => failure
  retreat c
  let e? ← withNulls (← argumentBody g canAlias)
  withLimit g (← withNulls (← withOrder g (← havingBound g e?)))

/-- The arguments of a call. -/
def arguments (canAlias : Bool) : Parser (List Expr) :=
  separated (argument g canAlias)

/-! ## Case -/

/-- A branch of a case. -/
def branch : Parser (Option (Expr × Expr)) := do
  unless ← keyword "WHEN" do return none
  let test ← required g.disjunction
  discard <| keyword "THEN"
  let result ← required g.disjunction
  discard taken
  return some (test, result)

/-- A case behind its first word, which `c` stands before. It is no case where a point
follows. -/
def case (c : Cursor) : Parser (Option Expr) := do
  if ← sees (·.isSymbol ".") then
    retreat c
    return none
  let comments ← pending
  let subject ← g.disjunction
  let branches ← someOf (many (branch g))
  let otherwise ← if ← keyword "ELSE" then g.disjunction else pure none
  unless ← keyword "END" do failure
  return some (← madeWith comments (.case subject branches otherwise))

/-- What is chosen by a condition. -/
def choice (arguments : List Expr) : Option Expr :=
  match arguments with
  | [condition, yes] => some (.case none [(condition, yes)] none)
  | [condition, yes, no] => some (.case none [(condition, yes)] (some no))
  | _ => none

/-- A condition behind its word, which `c` stands before: as a function of parts in parentheses,
or with words between the parts. -/
def conditional (c : Cursor) : Parser (Option Expr) := do
  if ← symbol "(" then
    let arguments ← separated do aliased g true (← g.assignment)
    let some e := choice arguments | failure
    expectSymbol ")"
    return some e
  else
    let some condition ← g.disjunction
      | retreat c
        return none
    discard <| keyword "THEN"
    let yes ← required g.disjunction
    let no? ← if ← keyword "ELSE" then g.disjunction else pure none
    discard <| keyword "END"
    return some (← made (.case none [(condition, yes)] no?))

/-! ## Functions with a grammar of their own -/

/-- A cast, behind the opening parenthesis. -/
def castCall (isTry : Bool) : Parser Expr := do
  let e ← required g.disjunction
  unless ← keyword "AS" do failure
  let t? ← g.type false
  if ← keyword "FORMAT" <||> symbol "," then
    let format ← required g.primary
    let t := t?.getD (.type "UNKNOWN" [] false)
    made (.cast isTry e (.phrase [t, .word "FORMAT", format]))
  else
    let some t := t? | failure
    let t ← if ← keyword "CHARACTER SET" then
        pure (.phrase ([t, .word "CHARACTER SET"] ++ (← wordWhere g true fun _ => false).toList))
      else pure t
    made (.cast isTry e t)

/-- A conversion, behind the opening parenthesis. -/
def convertCall (isTry : Bool) : Parser Expr := do
  let e ← required g.bitwise
  if ← keyword "USING" then
    let set ← required (wordWhere g false (· == "BINARY"))
    made (.cast isTry e (.phrase [.word "CHAR CHARACTER SET", set]))
  else if ← symbol "," then
    let t ← required (g.type false)
    made (.cast isTry e t)
  else failure

/-- A rounding to whole numbers, behind the opening parenthesis. -/
def roundingCall (function : String) : Parser Expr := do
  let es ← arguments g false
  if ← reads ["TO"] then
    match es.head?, ← wordWhere g false fun _ => false with
    | some e, some w => return .calling function [e.related "TO" w]
    | _, _ => return .calling function (es.take 2)
  else return .calling function (es.take 2)

/-- The character of a number, behind the opening parenthesis. -/
def characterCall : Parser Expr := do
  let es ← someOf (separated g.assignment)
  if ← keyword "USING" then
    match ← wordWhere g false fun _ => false with
    | some set => made (.calling "CHR" [.phrase [.listed es, .word "USING", set]])
    | none => made (.calling "CHR" es)
  else made (.calling "CHR" es)

/-- A part of a point in time, behind the opening parenthesis; `part` reads a part that is a
call. -/
def extractCall (part : Parser (Option Expr)) : Parser Expr := do
  let part ← do
    match ← part with
    | some e => pure e
    | none =>
      match ← ahead? with
      | some (.text s) => advance; made (.text s)
      | _ => required (certainWord g)
  unless ← keyword "FROM" <||> symbol "," do failure
  let e ← required g.bitwise
  made (.calling "EXTRACT" [part.related "FROM" e])

/-- The place of a text in another one, behind the opening parenthesis. -/
def positionCall : Parser Expr := do
  let es ← separated g.bitwise
  if ← keyword "IN" then
    let text ← required g.bitwise
    made (.calling "STR_POSITION" (text :: es.take 1))
  else
    match es with
    | [part, text] => return .calling "STR_POSITION" [text, part]
    | [part, text, start] => return .calling "STR_POSITION" [text, part, start]
    | _ => failure

/-- A part of a text, behind the opening parenthesis: from a place, for a length. -/
def substringCall : Parser Expr := do
  let es ← separated g.bitwise
  let (start?, length?) ← iterate (fun (start?, length?) => do
    if ← keyword "FROM" then return some (← g.bitwise, length?)
    else if ← keyword "FOR" then
      return some (some (start?.getD (.number "1")), ← g.bitwise)
    else return none) (none, none)
  let es := es ++ start?.toList ++ length?.toList
  unless Function.accepts "SUBSTRING" es.length do failure
  return .calling "SUBSTRING" es

/-- A text without characters at its ends, behind the opening parenthesis. -/
def trimCall : Parser Expr := do
  let side? ← readsOf ["BOTH", "LEADING", "TRAILING"]
  let first? ← g.bitwise
  let (text?, part?) ← do
    if ← keyword "FROM" then pure (← g.bitwise, first?)
    else if ← symbol "," then pure (first?, ← g.bitwise)
    else pure (first?, none)
  if ← keyword "COLLATE" then discard g.bitwise
  let some text := text? | failure
  let function :=
    match side? with
    | some "LEADING" => "LTRIM"
    | some "TRAILING" => "RTRIM"
    | _ => "TRIM"
  made (.calling function (text :: part?.toList))

/-- A text with a part replaced by its place, behind the opening parenthesis. -/
def overlayCall : Parser Expr := do
  let text ← required g.bitwise
  let part? (word : String) : Parser (Option Expr) := do
    if ← symbol "," <||> reads [word] then g.bitwise else return none
  let replacement ← required (part? "PLACING")
  let start ← required (part? "FROM")
  let length ← part? "FOR"
  made (.calling "OVERLAY" [.phrase ([text, .word "PLACING", replacement, .word "FROM", start] ++
    (length.toList.map fun e => .led "FOR" e))])

/-- A choice by values, behind the opening parenthesis. -/
def decodeCall : Parser Expr := do
  made (.calling "DECODE" (← someOf (separated g.disjunction)))

/-- The texts of a group in a row, behind the opening parenthesis. The order belongs to the
first argument, wherever it stands. -/
def groupTextCall : Parser Expr := do
  let es ← do
    if ← keyword "DISTINCT" then
      let e ← required g.disjunction
      let first ← made (.phrase [.word "DISTINCT", e])
      let more ← if ← symbol "," then separated g.disjunction else pure []
      pure (first :: more)
    else separated g.disjunction
  let some first := es.head? | failure
  if ← acceptBoth (·.isSymbol ")") (·.reads "WITHIN") then
    unless ← reads ["GROUP"] do failure
    expectSymbol "("
    let first := (← withOrder g (some first)).getD first
    made (.calling "GROUP_CONCAT" (first :: (es.drop 1).take 1))
  else if ← sees (·.isSymbol ")") then
    unless Function.accepts "GROUP_CONCAT" es.length do failure
    return .calling "GROUP_CONCAT" es
  else
    let first := (← withLimit g (← withOrder g (some first))).getD first
    made (.calling "GROUP_CONCAT" (first :: (es.drop 1).take 1))

/-- Whether a function has a grammar of its own. -/
def hasGrammar (function : String) : Bool :=
  ["CAST", "CEIL", "CHAR", "CHR", "CONVERT", "DECODE", "EXTRACT", "FLOOR", "OVERLAY", "POSITION",
   "SAFE_CAST", "STRING_AGG", "SUBSTRING", "TRIM", "TRY_CAST", "TRY_CONVERT"].contains function

/-- A call with a grammar of its own, behind the opening parenthesis. -/
def grammarCall (function : String) (part : Parser (Option Expr)) : Parser Expr :=
  match function with
  | "CAST" => castCall g false
  | "TRY_CAST" | "SAFE_CAST" => castCall g true
  | "CONVERT" => convertCall g false
  | "TRY_CONVERT" => convertCall g true
  | "CEIL" | "FLOOR" => roundingCall g function
  | "CHAR" | "CHR" => characterCall g
  | "EXTRACT" => extractCall g part
  | "POSITION" => positionCall g
  | "SUBSTRING" => substringCall g
  | "TRIM" => trimCall g
  | "OVERLAY" => overlayCall g
  | "DECODE" => decodeCall g
  | "STRING_AGG" => groupTextCall g
  | _ => failure

end

/-! ## Functions that stand for other expressions -/

/-- An operand in parentheses if it is an operation itself. -/
def enclosed (e : Expr) : Expr :=
  match e.bare with
  | .binary .. => .group e
  | .field .. => if e.isColumn then e else .group e
  | _ => e

/-- The unit of time that an expression names, if it is one. -/
def unitName? (e : Expr) : Option String :=
  match e.bare with
  | .name (.plain s) | .name (.quoted s) | .text s | .number s | .word s =>
    some s
  | _ => none

/-- A unit of time as a word; its short name is one in capitals. -/
def unitWord (e : Expr) : Expr :=
  match unitName? e with
  | some s => .word (Text.upper (Function.unit s))
  | none => e

/-- A unit of time as a string. -/
def unitText (e : Expr) : Expr :=
  match unitName? e with
  | some s => .text (Function.unit (Text.upper s))
  | none => e

/-- The path into a document as it is printed. -/
def documentPath (e : Expr) : Expr :=
  match e.bare with
  | .number digits => .text ("$[" ++ digits ++ "]")
  | .text s =>
    let isWord (c : Char) : Bool := c.isAlphanum || c == '_' || c == '.'
    if s.toList.all isWord && !s.isEmpty then .text ("$." ++ s) else .text s
  | _ => e

/-- The name of a field before its value, if an expression is one. -/
def fieldName? (e : Expr) : Option Expr :=
  match e.bare with
  | .name (.plain s) | .name (.quoted s) | .text s => some (.name (.ofText s.toList))
  | _ => none

/-- A field of a structure: a value under a name, whichever way the name is given. -/
def fieldValue (e : Expr) : Expr :=
  match e.bare with
  | .binary .slice key value | .binary .equal key value =>
    match fieldName? key with
    | some name => .aliased value name
    | none => e
  | .binary .assign key value => .aliased value key
  | _ => e

/-- The call of a known function, or the expression that it stands for. -/
def knownCall (function : String) (arguments : List Expr) : Option Expr :=
  let name := Function.printedName function
  let plain :=
    if Function.accepts name arguments.length then some (.calling name arguments) else none
  match function, arguments with
  | "LOG2", [] => some (.calling "LOG" [.number "2"])
  | "LOG2", [e] | "LOG2", [e, _] => some (.calling "LOG" [.number "2", e])
  | "LOG2", _ => none
  | "LOG10", [] => some (.calling "LOG" [.number "10"])
  | "LOG10", [e] | "LOG10", [e, _] => some (.calling "LOG" [.number "10", e])
  | "LOG10", _ => none
  | "MOD", a :: b :: _ => some (.binary .remainder (enclosed a) (enclosed b))
  | "MOD", _ => none
  | "LIKE", pattern :: e :: [] => some (.binary .like e pattern)
  | "LIKE", pattern :: e :: mark :: _ => some (.binary .escape (.binary .like e pattern) mark)
  | "LIKE", _ => none
  | "GLOB", pattern :: e :: _ => some (.binary .glob e pattern)
  | "GLOB", _ => none
  | "XOR", a :: b :: _ => some (.binary .xor a b)
  | "XOR", _ => none
  | "IF", es | "IIF", es => choice es
  | "LOCATE", [part, text] | "CHARINDEX", [part, text] =>
    some (.calling "STR_POSITION" [text, part])
  | "LOCATE", part :: text :: start :: _ | "CHARINDEX", part :: text :: start :: _ =>
    some (.calling "STR_POSITION" [text, part, start])
  | "LOCATE", _ | "CHARINDEX", _ => none
  | "TO_CHAR", e :: es =>
    if es.length < 4 then some (.cast false e (.type "TEXT" [] false)) else none
  | "EXISTS", e :: es => if es.length < 2 then some (.calling "EXISTS" [e]) else none
  | "UNNEST", e :: es => if es.length < 4 then some (.calling "UNNEST" [e]) else none
  | "UNNEST", [] => none
  | "CURRENT_DATE", [] => some (.word "CURRENT_DATE")
  | "STRUCT", es => some (.calling "STRUCT" (es.map fieldValue))
  | "ARRAY_CONTAINS_ALL", [a, b] | "ARRAY_HAS_ALL", [a, b] => some (a.related "@>" b)
  | "ARRAY_OVERLAPS", [a, b] => some (.binary .overlapsArray a b)
  | "JSON_EXTRACT", e :: path :: es =>
    some (.calling "JSON_EXTRACT" (e :: documentPath path :: es))
  | "JSON_EXTRACT_SCALAR", [e, path] | "JSON_EXTRACT_PATH_TEXT", [e, path] =>
    some (.calling "JSON_EXTRACT_SCALAR" [e, documentPath path])
  | "DATE_TRUNC", unit :: es => plain.map fun _ => .calling name (unitText unit :: es)
  | "DATE_ADD", [e, amount] => some (.calling name [e, amount, .text "DAY"])
  | "DATE_ADD", [e, amount, unit] => some (.calling name [e, amount, unitText unit])
  | "DATEDIFF", e :: other :: unit :: es | "DATE_DIFF", e :: other :: unit :: es =>
    plain.map fun _ => .calling name (e :: other :: unitWord unit :: es)
  | "DATE_SUB", [e, amount, unit] => some (.calling name [e, amount, unitWord unit])
  | "LAST_DAY", [e, unit] => some (.calling name [e, unitWord unit])
  | "TIMESTAMPDIFF", [e, other, unit] => some (.calling name [e, other, unitWord unit])
  | _, _ => plain

/-- Functions that are known besides those with a signature. -/
def isKnownCall (function : String) : Bool :=
  Function.isKnown function ||
    ["ARRAY_CONTAINS_ALL", "ARRAY_HAS_ALL", "ARRAY_OVERLAPS", "CHARINDEX", "COUNT", "GLOB", "IF",
     "IIF", "JSON_EXTRACT", "JSON_EXTRACT_PATH_TEXT", "JSON_EXTRACT_SCALAR", "LIKE", "LOCATE",
     "LOG10", "LOG2", "MOD", "STRUCT", "UNNEST", "XOR"].contains function

section

variable (g : Grammar)

/-! ## Calls -/

/-- Words that begin something like a call without parentheses. -/
def leadingFunctions : List String := ["ANY", "CASE", "CONNECT_BY_ROOT", "IF"]

/-- What begins with such a word, which `c` stands before. -/
def leadingFunction (function : String) (c : Cursor) : Parser (Option Expr) := do
  match function with
  | "ANY" =>
    let e ← required g.bitwise
    match e.bare with
    | .group inner => return some (← made (Expr.annotated e.comments (.calling "ANY" [inner])))
    | _ => return some (← made (.led "ANY" e))
  | "CASE" => case g c
  | "CONNECT_BY_ROOT" => return some (← made (.led "CONNECT_BY_ROOT" (← required g.column)))
  | _ => conditional g c

/-- Functions without parentheses. -/
def bareFunctions : List String :=
  ["CURRENT_DATE", "CURRENT_SCHEMA", "CURRENT_TIME", "CURRENT_TIMESTAMP", "CURRENT_USER",
   "LOCALTIME", "LOCALTIMESTAMP"]

/-- The function without parentheses that a keyword of the kind calls. -/
def bareFunction? : Lexeme → Option Expr
  | .keyword kind _ =>
    if kind == "CURRENT_DATE" then some (.word kind)
    else if bareFunctions.contains kind then some (.calling kind []) else none
  | _ => none

/-- A test of a query by the word before it. -/
def queryTest (kind : String) (e : Expr) : Expr :=
  match kind with
  | "ALL" =>
    match e with
    | .query (.nested _) | .tuple _ | .group _ => .led "ALL" e
    | e => .led "ALL" (.group e)
  | "EXISTS" => .calling "EXISTS" [e]
  | _ =>
    match e with
    | .tuple _ => .led "ANY" e
    | .group e => .calling "ANY" [e]
    | e => .calling "ANY" [e]

/-- Whether a lexeme can be the name of a function. -/
def isFunctionName : Lexeme → Bool
  | .word _ | .quoted _ => true
  | .keyword kind _ => Keyword.isFunction kind
  | _ => false

/-- A query behind the word of a test, and the opening parenthesis; such a test may also compare
with a pattern. -/
def testCall (kind : String) (before : Cursor) (isPattern : Bool) : Parser (Option Expr) := do
  unless ["ALL", "ANY", "EXISTS", "SOME"].contains kind do return none
  if ← sees fun l => l.isKeyword "SELECT" || l.isKeyword "WITH" then
    let q ← required (g.query .alone)
    expectSymbol ")"
    return some (queryTest kind (.query q))
  else if isPattern then
    retreat before
    return (← g.bitwise).map (queryTest kind)
  else return none

/-- The call of a function, behind the opening parenthesis. -/
def functionCall (function : Lexeme) (isAnonymous : Bool) : Parser Expr := do
  let name := Text.upper function.content
  let isKnown := !isAnonymous && isKnownCall name
  let es ← arguments g (!isKnown || name == "STRUCT")
  if isKnown then
    let some e := knownCall name es | failure
    return e
  else
    match function with
    | .quoted _ => made (.call (.quoted name) es)
    | _ => made (.calling name es)

/-- A call: a word of its own, a function without parentheses, or a function with its arguments.
With `isAnonymous`, what a function stands for does not matter; with `isCertain`, almost any
token can be its name. -/
def functionWith (part : Parser (Option Expr)) (canBeBare isAnonymous isCertain : Bool) :
    Parser (Option Expr) := do
  let c ← get
  let some function ← ahead? | return none
  let name := Text.upper function.content
  let isWord := match function with
    | .text _ | .quoted _ => false
    | _ => true
  if canBeBare && isWord && leadingFunctions.contains name then
    advance
    match ← leadingFunction g name c with
    | none => return none
    | some e => return some (← windowed g e)
  unless (← second?).any (·.isSymbol "(") do
    match (bareFunction? function).filter fun _ => canBeBare with
    | none => return none
    | some e =>
      advance
      return some (← made e)
  unless (if isCertain then !function.isNoName else isFunctionName function) do return none
  let isPattern := (← last?).any fun l => l.isKeyword "LIKE" || l.isKeyword "ILIKE"
  advance
  let comments ← pending
  let before ← get
  advance
  if !isAnonymous && hasGrammar name then
    let e := (← grammarCall g name part).annotated comments
    let e ← if ← symbol ")" then made e else pure e
    return some (← windowed g e)
  if let .keyword kind _ := function then
    if let some e ← testCall g kind before isPattern then
      return some (← madeWith comments e)
  let e ← functionCall g function isAnonymous
  return some (← windowed g (← closed (e.annotated comments)))

/-- A call that is a part of a point in time. -/
def partCall : Parser (Option Expr) :=
  functionWith g (return none) true false false

/-- A call, perhaps in braces behind the word for it. -/
def function (canBeBare : Bool) : Parser (Option Expr) := do
  let isBraced ← acceptBoth (·.isSymbol "\x7b") (·.reads "FN")
  let e? ← functionWith g (partCall g) canBeBare false false
  if isBraced then discard <| symbol "\x7d"
  return e?

/-- A call behind a point. -/
def memberFunction : Parser (Option Expr) :=
  functionWith g (partCall g) true true true

end

end Parser

end QueryBook.Sql
