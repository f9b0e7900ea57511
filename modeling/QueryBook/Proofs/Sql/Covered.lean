import QueryBook.Proofs.Sql.Layout.Laid

/-!
# Statements that are read as they are printed

A tree of syntax says more than its text where two readings of a text have the same tree in mind
only by luck: a type that is named between quotes is printed without them, and a column named by a
word of the grammar is read as that word. `Covered` are the trees for which this does not happen,
form by form: names are words that the grammar leaves alone or stand between quotes, types have
plain names, operators stand at their own level with operands of the levels below, and clauses are
those of a select. Texts between quotes hold any characters, and everything nests.
-/

namespace QueryBook.Sql

open Lexeme (kw)

/-! ## Names -/

/-- The lexeme that a name is read as. -/
inductive Name.Writes : Name → Lexeme → Prop
  | plain {s : String} (hs : Lexer.isWord s = true) (ht : (Lexeme.ofWord s).isTame = true) :
    Writes (.plain s) (.ofWord s)
  | quoted {s : String} (ht : (Lexeme.quoted s).isTame = true) : Writes (.quoted s) (.quoted s)

namespace Lexeme

/-- Whether the lexeme is the name of a column wherever an operand is read. -/
def namesColumn (l : Lexeme) : Bool :=
  l.namesSource && !l.beginsPrimary && !l.beginsType && !l.isKeyword "ALL"

/-- Whether the lexeme is the name of a type that can be a column as well. -/
def namesType (l : Lexeme) : Bool :=
  l.namesSource && !l.beginsPrimary && l.beginsType && !l.isKeyword "INTERVAL"

/-- Whether the lexeme is a name behind a point. -/
def namesMember (l : Lexeme) : Bool :=
  !l.isNoName && !l.beginsPrimary && !l.beginsBareCall

/-- Whether the lexeme is the name of a query in front of a select. -/
def namesTable (l : Lexeme) : Bool :=
  l.namesSource && !(["LIMIT", "OFFSET", "RECURSIVE"].any l.isKeyword)

/-- Whether the lexeme is a type that holds others. -/
def isNestedType : Lexeme → Bool
  | keyword kind _ => Keyword.nestedTypes.contains kind
  | _ => false

end Lexeme

/-- The name of a function that is printed as it is read. -/
structure IsFunctionName (d : Dialect) (f : String) : Prop where
  word : Lexer.isWord f = true
  tame : (Lexeme.ofWord f).isTame = true
  upper : Text.upper f = f
  call : (Lexeme.ofWord f).namesCall = true
  noType : (Lexeme.ofWord f).beginsType = false
  parentheses : d.arrayBrackets = false ∨ f ≠ "ARRAY"

/-- A call of a known function stays what it is. -/
def KeepsCall (f : String) (es : List Expr) : Prop :=
  Parser.isKnownCall f = true → Parser.knownCall f es = some (.calling f es)

/-- A call of a function as it is printed. -/
structure KeepsFunction (d : Dialect) (f : String) (es : List Expr) : Prop where
  name : IsFunctionName d f
  call : KeepsCall f es

/-! ## Forms of trees -/

/-- The parts of a select that is neither put into a table nor has hints. -/
structure Outline where
  isDistinct : Bool
  items : List Expr
  from? : Option Query
  joins : List Join
  where? : Option Expr
  groups : List Expr
  having? : Option Expr
  keys : List Expr
  limit? : Option Expr
  offset? : Option Expr

namespace Outline

/-- Expressions as a list, if there are any. -/
def listed? : List Expr → Option Expr
  | [] => none
  | es => some (.listed es)

/-- A clause without comments. -/
def clause {α : Type} (a : α) : Clause α :=
  ⟨[], a⟩

variable (o : Outline)

/-- The clauses of the select. -/
def clauses : Clauses where
  joins := o.joins
  laterals := []
  where? := o.where?.map clause
  groupBy? := (listed? o.groups).map clause
  having? := o.having?.map clause
  spreads := []
  windows := []
  qualify? := none
  orderBy? := (listed? o.keys).map clause
  limit? := o.limit?.map clause
  offset? := o.offset?
  fetch? := none
  locks := []
  sample? := none

/-- The select. -/
def select : Select where
  with? := none
  comments := []
  hints := []
  distinct? := if o.isDistinct then some (.word "DISTINCT") else none
  words := []
  items := o.items
  into? := none
  source? := o.from?.map clause
  clauses := o.clauses

end Outline

/-- Trees by the reader that they are for. -/
inductive Node where
  /-- A column: names with points between them. -/
  | path (e : Expr)
  /-- A table: names with points between them. -/
  | source (e : Expr)
  /-- An expression that a level of operators reads. -/
  | expr (level : Level) (e : Expr)
  | argument (e : Expr)
  /-- A projected expression. -/
  | item (e : Expr)
  /-- A sort key. -/
  | key (e : Expr)
  /-- A source, perhaps with an alias. -/
  | table (q : Query)
  | join (j : Join)
  | select (o : Outline)
  /-- Selects with set operations between them. -/
  | chain (q : Query)
  | query (q : Query)
  | named (t : CommonTable Expr Query)

namespace Query

/-- Whether the last select of some set operations has a source. -/
def endsWithSource : Query → Bool
  | .select s => s.source?.isSome
  | .combined _ _ _ right => endsWithSource right
  | _ => false

end Query

/-- Whether an expression is a query. -/
def Expr.isQuery : Expr → Bool
  | .query _ => true
  | _ => false

/-- Whether an expression is the remainder of a division. -/
def Expr.isRemainder : Expr → Bool
  | .binary .remainder _ _ => true
  | _ => false

/-- The alias of a source, if it has one. -/
inductive Labels : Query → Query → Prop
  | none (q : Query) : Labels q q
  | some (q : Query) {n : Name} {l : Lexeme} (hn : n.Writes l) (hl : l.isNoName = false) :
    Labels q (.aliased q (.name n))

/-! ## Coverage -/

/-- The trees that are read as they are printed. -/
inductive Covered (d : Dialect) : Node → Prop
  /- Names -/
  | name {n : Name} {l : Lexeme} (hn : n.Writes l) (hl : l.namesColumn = true) :
    Covered d (.path (.name n))
  | field {e : Expr} {n : Name} {l : Lexeme} (he : Covered d (.path e)) (hn : n.Writes l)
    (hl : l.namesMember = true) : Covered d (.path (.field e (.name n)))
  | sourceName {n : Name} {l : Lexeme} (hn : n.Writes l) (hl : l.namesSource = true) :
    Covered d (.source (.name n))
  | sourceField {e : Expr} {n : Name} {l : Lexeme} (he : Covered d (.source e)) (hn : n.Writes l)
    (hl : l.namesSource = true) : Covered d (.source (.field e (.name n)))
  /- Operands -/
  | column {e : Expr} (he : Covered d (.path e)) : Covered d (.expr .operand e)
  | typeName {n : Name} {l : Lexeme} {level : Level} (hn : n.Writes l) (hl : l.namesType = true)
    (hlevel : level = .equality ∨ level = .term ∧ l.isNestedType = false) :
    Covered d (.expr level (.name n))
  | bound {s : String} (hs : Lexer.isWord s = true) (ht : (Lexeme.ofWord s).isTame = true)
    (hd : d.placeholder = (":", "")) : Covered d (.expr .operand (.name (.bound s)))
  | anonymous (hd : d.anonymous = "?") : Covered d (.expr .operand (.name .anonymous))
  | number {s : String} (hs : Lexer.isNumeral s = true) : Covered d (.expr .operand (.number s))
  | text (s : String) : Covered d (.expr .operand (.text s))
  | null : Covered d (.expr .term (.constant .null))
  | truth {c : Constant} (hc : c ≠ .null) (hd : d.bitConstants = false) :
    Covered d (.expr .operand (.constant c))
  | today : Covered d (.expr .operand (.word "CURRENT_DATE"))
  | negative {e : Expr} (he : Covered d (.expr .operand e)) :
    Covered d (.expr .operand (.unary .negative e))
  | group {e : Expr} (he : Covered d (.expr .disjunction e)) (hq : e.isQuery = false) :
    Covered d (.expr .operand (.group e))
  | tuple {e e' : Expr} {es : List Expr} (hes : ∀ x ∈ e :: e' :: es, Covered d (.expr .disjunction x))
    (hq : e.isQuery = false) : Covered d (.expr .operand (.tuple (e :: e' :: es)))
  | subquery {q : Query} (hq : Covered d (.query q)) : Covered d (.expr .operand (.query (.nested q)))
  /- Calls -/
  | call {f : String} {es : List Expr} (hf : KeepsFunction d f es)
    (hes : ∀ e ∈ es, Covered d (.argument e)) : Covered d (.expr .operand (.calling f es))
  | callDistinct {f : String} {es : List Expr} (hne : es ≠ [])
    (hf : KeepsFunction d f [.phrase [.word "DISTINCT", .listed es]])
    (hes : ∀ e ∈ es, Covered d (.expr .disjunction e)) :
    Covered d (.expr .operand (.calling f [.phrase [.word "DISTINCT", .listed es]]))
  | windowed {f : String} {es groups keys : List Expr} (hf : KeepsFunction d f es)
    (hes : ∀ e ∈ es, Covered d (.argument e))
    (hgroups : ∀ e ∈ groups, Covered d (.expr .disjunction e))
    (hkeys : ∀ e ∈ keys, Covered d (.key e)) :
    Covered d (.expr .operand ((Expr.calling f es).related "OVER"
      (.group (.phrase (Parser.windowParts groups keys)))))
  | cast {isTry : Bool} {e : Expr} {s : String} {sizes : List String} {head : Parser.TypeHead}
    (he : Covered d (.expr .disjunction e)) (hs : Lexer.isWord s = true)
    (ht : (Lexeme.ofWord s).isTame = true) (hhead : Parser.typeHead? (.ofWord s) = some head)
    (hplain : head.isPlain = true) (hprinted : head.printed = s)
    (hsizes : ∀ size ∈ sizes, Lexer.isNumeral size = true) :
    Covered d (.expr .operand (.cast isTry e (.type s (sizes.map .number) false)))
  | exists {q : Query} (hq : Covered d (.query q)) :
    Covered d (.expr .operand (.calling "EXISTS" [.query q]))
  | case {subject? otherwise? : Option Expr} {branches : List (Expr × Expr)}
    (hsubject : ∀ e ∈ subject?, Covered d (.expr .disjunction e)) (hne : branches ≠ [])
    (htests : ∀ b ∈ branches, Covered d (.expr .disjunction b.1))
    (hresults : ∀ b ∈ branches, Covered d (.expr .disjunction b.2))
    (hotherwise : ∀ e ∈ otherwise?, Covered d (.expr .disjunction e)) :
    Covered d (.expr .operand (.case subject? branches otherwise?))
  /- Operators and tests -/
  | rise {level : Level} {e : Expr} (hlevel : level ∉ Level.ends) (he : Covered d (.expr level.below e)) :
    Covered d (.expr level e)
  | binary {level : Level} {op : BinaryOp} {l : Lexeme} {left right : Expr}
    (hl : l ∈ level.operators) (hsign : Layout.lexemes op.parts = [l])
    (hop : Parser.operator? d level l = some op)
    (hleft : Covered d (.expr level left)) (hright : Covered d (.expr level.below right))
    (hopen : op.encloses left = false ∧ op.encloses right = false) :
    Covered d (.expr level (.binary op left right))
  | not {e : Expr} (he : Covered d (.expr .equality e)) :
    Covered d (.expr .negation (.unary .not e))
  | between {e low high : Expr} (he : Covered d (.expr .range e))
    (hlow : Covered d (.expr .bitwise low)) (hhigh : Covered d (.expr .bitwise high))
    (hhead : (low.lexemes d).head?.any
      (fun l => l.reads "SYMMETRIC" || l.reads "ASYMMETRIC") = false) :
    Covered d (.expr .range (.between e low high))
  | pattern {op : BinaryOp} {e pattern : Expr}
    (hop : op ∈ [BinaryOp.like, .notLike, .ilike, .notIlike]) (he : Covered d (.expr .range e))
    (hpattern : Covered d (.expr .bitwise pattern))
    (hopen : op.encloses e = false ∧ op.encloses pattern = false) :
    Covered d (.expr .range (.binary op e pattern))
  | isConstant {e : Expr} {c : Constant} (he : Covered d (.expr .range e))
    (hc : c = .null ∨ d.bitConstants = false) (hopen : BinaryOp.is.encloses e = false) :
    Covered d (.expr .range (.binary .is e (.constant c)))
  | isDistinct {isNegated : Bool} {e right : Expr} (he : Covered d (.expr .range e))
    (hright : Covered d (.expr .bitwise right))
    (hopen : (if isNegated then BinaryOp.isNotDistinct else .isDistinct).encloses e = false ∧
      (if isNegated then BinaryOp.isNotDistinct else .isDistinct).encloses right = false) :
    Covered d (.expr .range (.binary (if isNegated then .isNotDistinct else .isDistinct) e right))
  | oneOf {e : Expr} {es : List Expr} (he : Covered d (.expr .range e)) (hne : es ≠ [])
    (hes : ∀ x ∈ es, Covered d (.expr .disjunction x)) (hq : ∀ q, es ≠ [.query q]) :
    Covered d (.expr .range (.oneOf e (.tuple es)))
  | oneOfQuery {e : Expr} {q : Query} (he : Covered d (.expr .range e)) (hq : Covered d (.query q)) :
    Covered d (.expr .range (.oneOf e (.query (.nested q))))
  /- Parts of lists -/
  | argument {e : Expr} (he : Covered d (.expr .disjunction e)) : Covered d (.argument e)
  | argumentStar : Covered d (.argument .star)
  | item {e : Expr} (he : Covered d (.expr .disjunction e)) : Covered d (.item e)
  | itemAliased {e : Expr} {n : Name} {l : Lexeme} (he : Covered d (.expr .disjunction e))
    (hn : n.Writes l) (hl : l.isNoName = false) : Covered d (.item (.aliased e (.name n)))
  | itemStar : Covered d (.item .star)
  | itemStarOf {e : Expr} (he : Covered d (.path e)) : Covered d (.item (.field e .star))
  | key {e : Expr} (direction : Option Direction) (nullsFirst : Bool)
    (he : Covered d (.expr .disjunction e)) : Covered d (.key (.sorted e direction nullsFirst))
  /- Sources -/
  | table {e : Expr} {q : Query} (he : Covered d (.source e)) (hq : Labels (.expr e) q) :
    Covered d (.table q)
  | derived {q q' : Query} (hq : Covered d (.query q)) (hq' : Labels (.nested q) q') :
    Covered d (.table q')
  | joinComma {q : Query} (hq : Covered d (.table q)) : Covered d (.join ⟨[], [], q, none, []⟩)
  | joinBare {ws : List String} {q : Query} (hws : ws ∈ Parser.joinPhrases) (hne : ws ≠ [])
    (hq : Covered d (.table q)) (hnested : Parser.allowsNested ws q = false) :
    Covered d (.join ⟨[], ws, q, none, []⟩)
  | joinOn {ws : List String} {q : Query} {e : Expr} (hws : ws ∈ Parser.joinPhrases)
    (hq : Covered d (.table q)) (he : Covered d (.expr .disjunction e)) :
    Covered d (.join ⟨[], ws, q, some e, []⟩)
  | joinUsing {ws : List String} {q : Query} {ns : List Name} (hws : ws ∈ Parser.joinPhrases)
    (hq : Covered d (.table q)) (hne : ns ≠ []) (hns : ∀ n ∈ ns, Covered d (.path (.name n))) :
    Covered d (.join ⟨[], ws, q, none, ns.map .name⟩)
  /- Queries -/
  | select {o : Outline} (hne : o.items ≠ []) (hitems : ∀ e ∈ o.items, Covered d (.item e))
    (htop : d.leadingLimit = true →
      (Lexeme.commas (o.items.map (Expr.lexemes d))).head?.any (·.reads "TOP") = false)
    (hfrom : ∀ q ∈ o.from?, Covered d (.table q))
    (hjoins : ∀ j ∈ o.joins, Covered d (.join j)) (hsource : o.joins ≠ [] → o.from?.isSome)
    (hwhere : ∀ e ∈ o.where?, Covered d (.expr .disjunction e))
    (hgroups : ∀ e ∈ o.groups, Covered d (.expr .disjunction e))
    (hgrouping : ∀ e ∈ o.groups, (e.lexemes d).head?.any
      (fun l => l.isKeyword "CUBE" || l.isKeyword "ROLLUP") = false)
    (hhaving : ∀ e ∈ o.having?, Covered d (.expr .disjunction e))
    (hkeys : ∀ e ∈ o.keys, Covered d (.key e))
    (hlimit : ∀ e ∈ o.limit?, Covered d (.expr .term e))
    (hcount : ∀ e ∈ o.limit?, e.isRemainder = false)
    (hoffset : ∀ e ∈ o.offset?, Covered d (.expr .term e))
    (hends : o.offset?.isSome → d.leadingLimit = false ∧ (o.limit?.isSome ∨ o.keys ≠ [])) :
    Covered d (.select o)
  | chain {o : Outline} (ho : Covered d (.select o)) : Covered d (.chain (.select o.select))
  | combined {ws : List String} {left : Query} {o : Outline} (hws : ws ∈ Parser.setPhrases)
    (hleft : Covered d (.chain left)) (ho : Covered d (.select o))
    (hexcept : ws.head? = some "EXCEPT" → left.endsWithSource = true)
    (hled : d.leadingLimit = true → o.limit? = none) :
    Covered d (.chain (.combined ws [] left (.select o.select)))
  | query {q : Query} (hq : Covered d (.chain q)) : Covered d (.query (Parser.withEnd q))
  | withTables {isRecursive : Bool} {tables : List (CommonTable Expr Query)} {q q' : Query}
    (hne : tables ≠ []) (htables : ∀ t ∈ tables, Covered d (.named t))
    (hq : Covered d (.chain q))
    (hwith : Parser.withNamed ⟨[], isRecursive, tables⟩ (Parser.withEnd q) = some q') :
    Covered d (.query q')
  | named {n : Name} {l : Lexeme} {q : Query} (hn : n.Writes l) (hl : l.namesTable = true)
    (hq : Covered d (.query q)) : Covered d (.named ⟨.name n, [], q⟩)
  | namedColumns {n : Name} {l : Lexeme} {ns : List Name} {q : Query} (hn : n.Writes l)
    (hl : l.namesTable = true) (hf : d.arrayBrackets = false ∨ n ≠ .plain "ARRAY")
    (hne : ns ≠ []) (hns : ∀ m ∈ ns, ∃ l, m.Writes l ∧ l.isNoName = false)
    (hq : Covered d (.query q)) : Covered d (.named ⟨.call n (ns.map .name), [], q⟩)

end QueryBook.Sql
