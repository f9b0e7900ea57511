import QueryBook.Proofs.Sql.Reader.Cursor

/-!
# What follows a phrase

Whether a parser stops behind a phrase depends on the lexeme behind it. Each level of the grammar
has finitely many lexemes that a printed statement can go on with behind a phrase of the level
(`Level.followers`), and everything that a parser asks about the lexeme ahead has one answer for all
of them (`Follows.head_any`). An operator follows the operands of its own level and of those below.
-/

namespace QueryBook.Sql

/-- The phrases of the grammar, by what can follow them. -/
inductive Level where
  | operand
  | factor
  | term
  | bitwise
  | range
  | comparison
  | equality
  /-- Conditions that may begin with `NOT`, which are no operands of other operators. -/
  | negation
  | conjunction
  | disjunction
  /-- Arguments of calls. -/
  | argument
  /-- Projected expressions, perhaps with an alias. -/
  | item
  /-- Sources, perhaps with an alias. -/
  | table
  /-- Joined sources with their tests. -/
  | join
  /-- Clauses behind the sources, other than the order and what follows it. -/
  | clause
  /-- Sort keys. -/
  | key
  /-- All the clauses of a query. -/
  | clauses
  deriving DecidableEq, Repr

namespace Lexeme

/-- A keyword in capitals, which is its kind. -/
abbrev kw (s : String) : Lexeme :=
  .keyword s s

section

variable (s kind mark : String)

@[simp] theorem isKeyword_keyword : (keyword s mark).isKeyword kind = (s == kind) := rfl

@[simp] theorem isSymbol_keyword : (keyword s kind).isSymbol mark = false := rfl

@[simp] theorem isKeyword_symbol : (symbol s).isKeyword kind = false := rfl

@[simp] theorem isKeyword_word : (word s).isKeyword kind = false := rfl

@[simp] theorem isSymbol_symbol : (symbol s).isSymbol mark = (s == mark) := rfl

end

theorem isSymbol_iff {l : Lexeme} {mark : String} : l.isSymbol mark = true ↔ l = .symbol mark := by
  cases l <;> simp [isSymbol]

theorem isKeyword_iff {l : Lexeme} {kind : String} :
    l.isKeyword kind = true ↔ ∃ s, l = .keyword kind s := by
  cases l <;> simp [isKeyword]

/-- Whether the lexeme neither names parameters or fields nor lists rows nor ends a statement,
wherever it stands. -/
def isTame (l : Lexeme) : Bool :=
  !(["->", "=>", ":=", "@", "\x7b", ";"].any l.isSymbol || l.isKeyword "VALUES" ||
    l.reads "VALUES")

theorem not_isSymbol_of_isTame {l : Lexeme} (h : l.isTame = true) {mark : String}
    (hm : mark ∈ ["->", "=>", ":=", "@", "\x7b", ";"]) : l.isSymbol mark = false := by
  simp only [isTame, Bool.not_eq_true', Bool.or_eq_false_iff, List.any_eq_false] at h
  simpa using h.1.1 mark hm

theorem not_values_of_isTame {l : Lexeme} (h : l.isTame = true) :
    l.isKeyword "VALUES" = false ∧ l.reads "VALUES" = false := by
  simp only [isTame, Bool.not_eq_true', Bool.or_eq_false_iff] at h
  exact ⟨h.1.2, h.2⟩

end Lexeme

namespace Level

open Lexeme (kw)

/-- What can stand behind the clauses of a query. -/
def closing : List Lexeme :=
  [.symbol ")", kw "UNION", kw "INTERSECT", kw "EXCEPT"]

/-- What can stand behind an argument of a call. -/
def behindArgument : List Lexeme :=
  [.symbol ")", .symbol ","]

/-- What can stand behind a projected expression: a set operation that leaves rows out would be read
as leaving columns out of a star. -/
def behindItem : List Lexeme :=
  [.symbol ")", .symbol ",", kw "FROM", kw "WHERE", kw "GROUP BY", kw "HAVING", kw "ORDER BY",
   kw "LIMIT", kw "UNION", kw "INTERSECT"]

/-- What can stand behind a joined source and its test. -/
def behindJoin : List Lexeme :=
  closing ++ [.symbol ",", kw "WHERE", kw "GROUP BY", kw "HAVING", kw "ORDER BY", kw "LIMIT",
    kw "JOIN", kw "INNER", kw "CROSS", kw "LEFT", kw "RIGHT", kw "FULL", kw "NATURAL"]

/-- What can stand behind a source. -/
def behindTable : List Lexeme :=
  behindJoin ++ [kw "ON", kw "USING"]

/-- What can stand behind a clause. -/
def behindClause : List Lexeme :=
  closing ++ [kw "WHERE", kw "GROUP BY", kw "HAVING", kw "ORDER BY", kw "LIMIT", kw "OFFSET"]

/-- What can stand behind a sort key. -/
def behindKey : List Lexeme :=
  closing ++ [.symbol ",", kw "LIMIT", kw "OFFSET"]

/-- What can stand behind a condition. -/
def behindCondition : List Lexeme :=
  behindTable ++
    [kw "FROM", kw "AS", kw "THEN", kw "WHEN", kw "ELSE", kw "END", kw "ASC", kw "DESC",
     .word "NULLS", kw "OFFSET"]

/-- The operators that join phrases of the level, or begin a test of one. -/
def operators : Level → List Lexeme
  | factor => [.symbol "*", .symbol "/", .symbol "<->"]
  | term => [.symbol "+", .symbol "-", .symbol "%", kw "COLLATE"]
  | bitwise => [.symbol "&", .symbol "|", .symbol "^", .symbol "||"]
  | range => [kw "NOT", kw "LIKE", kw "ILIKE", kw "BETWEEN", kw "IN", kw "IS"]
  | comparison => [.symbol "<", .symbol "<=", .symbol ">", .symbol ">="]
  | equality => [.symbol "=", .symbol "<>"]
  | conjunction => [kw "AND"]
  | disjunction => [kw "OR"]
  | _ => []

/-- The levels of operators above a level. -/
def above : Level → List Level
  | operand => [factor, term, bitwise, range, comparison, equality, conjunction, disjunction]
  | factor => [term, bitwise, range, comparison, equality, conjunction, disjunction]
  | term => [bitwise, range, comparison, equality, conjunction, disjunction]
  | bitwise => [range, comparison, equality, conjunction, disjunction]
  | range => [comparison, equality, conjunction, disjunction]
  | comparison => [equality, conjunction, disjunction]
  | equality | negation => [conjunction, disjunction]
  | conjunction => [disjunction]
  | _ => []

/-- The levels that are no conditions or operands. -/
def ends : List Level :=
  [argument, item, table, join, clause, key, clauses]

/-- The level of the operands of a level of operators. -/
def below : Level → Level
  | factor => operand
  | term => factor
  | bitwise => term
  | range => bitwise
  | comparison => range
  | equality => comparison
  | negation => equality
  | conjunction => negation
  | disjunction => conjunction
  | level => level

/-- What can stand behind a phrase of the level. -/
def followers : Level → List Lexeme
  | argument => behindArgument
  | item => behindItem
  | table => behindTable
  | join => behindJoin
  | clause => behindClause
  | key => behindKey
  | clauses => closing
  | level => behindCondition ++ level.above.flatMap operators

/-- What follows projected expressions, sources and clauses follows conditions as well. -/
theorem followers_subset_condition {level : Level} (h : level.above = []) :
    level.followers ⊆ behindCondition := by
  cases level with
  | argument | item | table | join | clause | key | clauses => exact List.subset_def.mpr (by decide)
  | disjunction => exact fun l hl => by simpa [followers, above] using hl
  | _ => simp [above] at h

/-- What follows a phrase of a level of operators follows those of lower levels. -/
theorem followers_subset {upper lower : Level} (h : upper.above ⊆ lower.above)
    (hl : lower ∉ ends) : upper.followers ⊆ lower.followers := by
  have hlower : lower.followers = behindCondition ++ lower.above.flatMap operators := by
    cases lower <;> first | rfl | simp [ends] at hl
  intro l hmem
  rw [hlower, List.mem_append, List.mem_flatMap]
  by_cases hu : upper.above = []
  · exact .inl (followers_subset_condition hu hmem)
  · have hupper : upper.followers = behindCondition ++ upper.above.flatMap operators := by
      cases upper <;> first | rfl | exact absurd rfl hu
    rw [hupper, List.mem_append, List.mem_flatMap] at hmem
    exact hmem.imp id fun ⟨k, hk, hlk⟩ => ⟨k, h hk, hlk⟩

theorem followers_subset_operand (level : Level) : level.followers ⊆ operand.followers :=
  followers_subset (by cases level <;> simp [above]) (by decide)

/-- No string follows a phrase. -/
theorem text_not_mem_followers (s : String) : .text s ∉ operand.followers := by
  have hnone : ∀ l ∈ operand.followers, l ≠ .text l.content := by decide
  exact fun hl => hnone _ hl rfl

/-- All that follows a phrase is in capitals. -/
theorem followers_capital : ∀ l ∈ operand.followers, ∀ s, l.reads s = (l.content == s) := by
  have hupper : ∀ l ∈ operand.followers, Text.upper l.content = l.content := by decide
  intro l hl s
  cases l with
  | text t => exact absurd hl (text_not_mem_followers t)
  | _ => simp only [Lexeme.reads, hupper _ hl]

end Level

/-- The lexemes can stand behind a phrase of the level. -/
structure Follows (level : Level) (rest : List Lexeme) : Prop where
  head : ∀ l ∈ rest.head?, l ∈ level.followers
  /-- No sign that shifts bits stands in front. -/
  single : ∀ l ∈ rest.head?, l = .symbol "<" ∨ l = .symbol ">" → rest[1]? ≠ some l
  tame : ∀ l ∈ rest, l.isTame = true

namespace Follows

open Sql.Parser (Leaves)

variable {level : Level} {rest : List Lexeme}

theorem nil (level : Level) : Follows level [] :=
  ⟨nofun, nofun, nofun⟩

/-- A lexeme that follows, with others behind it. -/
theorem cons {l : Lexeme} {ls : List Lexeme} (hl : l ∈ level.followers)
    (hs : (l = .symbol "<" ∨ l = .symbol ">") → ls.head? ≠ some l) (ht : l.isTame = true)
    (htame : ∀ m ∈ ls, m.isTame = true) : Follows level (l :: ls) where
  head m hm := by
    cases hm
    exact hl
  single m hm h := by
    cases hm
    simpa [List.head?_eq_getElem?] using hs h
  tame m hm := by
    rcases List.mem_cons.mp hm with rfl | hm
    · exact ht
    · exact htame m hm

/-- What follows a phrase of one level follows that of another one whose followers are more. -/
theorem mono {lower : Level} (h : Follows level rest)
    (hsub : level.followers ⊆ lower.followers) : Follows lower rest :=
  ⟨fun l hl => hsub (h.head l hl), h.single, h.tame⟩

/-- What follows a phrase of a level of operators follows those of lower levels. -/
theorem below {lower : Level} (h : Follows level rest) (hs : level.above ⊆ lower.above)
    (hl : lower ∉ Level.ends) : Follows lower rest :=
  h.mono (Level.followers_subset hs hl)

theorem operand (h : Follows level rest) : Follows .operand rest :=
  h.mono (Level.followers_subset_operand level)

/-- A question about the lexeme ahead, answered for all that can be there. -/
theorem head_any (h : Follows level rest) {is : Lexeme → Bool}
    (hnot : ∀ l ∈ level.followers, is l = false) : rest.head?.any is = false := by
  cases hrest : rest.head? with
  | none => rfl
  | some l => simpa using hnot l (h.head l hrest)

theorem accept (h : Follows level rest) {is : Lexeme → Bool}
    (hnot : ∀ l ∈ level.followers, is l = false) : Leaves (Parser.accept is) false rest :=
  fun last? => Parser.run_accept_of_not last? rest (h.head_any hnot)

theorem keyword (h : Follows level rest) (kind : String)
    (hnot : ∀ l ∈ level.followers, l.isKeyword kind = false) :
    Leaves (Parser.keyword kind) false rest :=
  h.accept hnot

theorem symbol (h : Follows level rest) (mark : String)
    (hnot : ∀ l ∈ level.followers, l.isSymbol mark = false) :
    Leaves (Parser.symbol mark) false rest :=
  h.accept hnot

theorem acceptBoth (h : Follows level rest) {is isSecond : Lexeme → Bool}
    (hnot : ∀ l ∈ level.followers, is l = false) :
    Leaves (Parser.acceptBoth is isSecond) false rest :=
  fun last? => Parser.run_acceptBoth_of_not last? rest (.inl (h.head_any hnot))

/-- Two signs in a row that shift bits do not follow. -/
theorem acceptTwice (h : Follows level rest) (mark : String) (hm : mark = "<" ∨ mark = ">") :
    Leaves (Parser.acceptBoth (·.isSymbol mark) (·.isSymbol mark)) false rest := by
  refine fun last? => Parser.run_acceptBoth_of_not last? rest ?_
  rcases rest with _ | ⟨l, _ | ⟨m, rest⟩⟩
  · exact .inl rfl
  · exact .inr rfl
  · by_cases hl : l = .symbol mark
    · subst hl
      have hne : m ≠ .symbol mark := by
        simpa [hm] using h.single (.symbol mark) rfl
      exact .inr (by simpa using fun hsym => hne (Lexeme.isSymbol_iff.mp hsym))
    · exact .inl (by simpa using fun hsym => hl (Lexeme.isSymbol_iff.mp hsym))

/-- A keyword that does not follow is none of those asked for. -/
theorem keywordOf (h : Follows level rest) (kinds : List String)
    (hnot : ∀ l ∈ level.followers, kinds.any l.isKeyword = false) :
    Leaves (Parser.keywordOf kinds) none rest :=
  Parser.keywordOf_leaves fun kind hkind => h.head_any fun l hl => by
    simpa using List.any_eq_false.mp (hnot l hl) kind hkind

theorem head_reads (h : Follows level rest) (word : String)
    (hnot : ∀ l ∈ level.followers, (l.content == word) = false) :
    rest.head?.any (·.reads word) = false :=
  h.head_any fun l hl => by
    rw [Level.followers_capital l (Level.followers_subset_operand level hl)]
    exact hnot l hl

/-- Words that do not follow are not read. -/
theorem reads (h : Follows level rest) (word : String) (words : List String)
    (hnot : ∀ l ∈ level.followers, (l.content == word) = false) :
    Leaves (Parser.reads (word :: words)) false rest := by
  intro last?
  have haccept := Parser.run_accept_of_not last? rest (h.head_reads word hnot)
  simp [Parser.reads, haccept]

/-- No operator of another level is ahead. -/
theorem op?_eq_none (h : Follows level rest) {op? : Lexeme → Option BinaryOp}
    (hnot : ∀ l ∈ level.followers, op? l = none) : rest.head?.bind op? = none := by
  cases hrest : rest.head? with
  | none => rfl
  | some l => exact hnot l (h.head l hrest)

end Follows

end QueryBook.Sql
