import QueryBook.Proofs.Sql.Covered.Reads

/-!
# Reading operators, tests and elements of lists

An operator is read with its operands, a test with what is tested, and an element of a list with its
alias or direction.
-/

namespace QueryBook.Sql

open QueryBook.Sql.Parser
open Lexeme (kw)

variable {d : Dialect} {tokens : String → Option (List Token)} {e : Expr} {q : Query}
  {rest : List Lexeme} {level : Level} {m : ℕ}

/-! ## Operators -/

theorem Level.below_not_end (hl : level ∉ Level.ends) : level.below ∉ Level.ends := by
  cases level <;> first | decide | exact absurd (by decide) hl

/-- The operators of a level follow its operands. -/
theorem Level.operators_follow {l : Lexeme} (hl : l ∈ level.operators) :
    l ∈ level.below.followers ∧ l.isTame = true := by
  have hall : ∀ l ∈ level.operators, l ∈ level.below.followers ∧ l.isTame = true := by
    cases level <;> decide
  exact hall l hl

theorem Level.operators_not_end {l : Lexeme} (hl : l ∈ level.operators) : level ∉ Level.ends := by
  cases level <;> first | decide | simp [operators] at hl

/-- An operator with its right operand follows the left one. -/
theorem Follows.operator {l : Lexeme} (hl : l ∈ level.operators) (hs : e.Shape d)
    (hrest : ∀ l ∈ rest, l.isTame = true) :
    Follows level.below (l :: (e.lexemes d ++ rest)) := by
  refine .cons (Level.operators_follow hl).1 (fun hsign heq => ?_) (Level.operators_follow hl).2
    (tame_append hs.tame hrest)
  have hhead := hs.head_append rest
  rcases hsign with rfl | rfl
  · have hnot : (e.lexemes d ++ rest).head?.any (·.isSymbol "<") = false :=
      head_not_symbol hhead (by decide)
    simp [heq] at hnot
  · have hnot : (e.lexemes d ++ rest).head?.any (·.isSymbol ">") = false :=
      head_not_symbol hhead (by decide)
    simp [heq] at hnot

section

variable {g : Grammar}

theorem Node.Reads.rise (h : (Node.expr level.below e).Reads d tokens g)
    (hl : level ∉ Level.ends) : (Node.expr level e).Reads d tokens g :=
  fun rest hf => (h rest (hf.toBelow (Level.below_not_end hl))).rise hf

theorem Node.Reads.binary {op : BinaryOp} {l : Lexeme} {left right : Expr}
    (hl : l ∈ level.operators) (hsign : Layout.lexemes op.parts = [l])
    (hop : Parser.operator? g.dialect level l = some op)
    (hopen : op.encloses left = false ∧ op.encloses right = false) (hs : right.Shape d)
    (hleft : (Node.expr level left).Reads d tokens g)
    (hright : (Node.expr level.below right).Reads d tokens g) :
    (Node.expr level (.binary op left right)).Reads d tokens g := by
  intro rest hf
  rw [Expr.lexemes_binary d hopen.1 hopen.2, hsign]
  exact Reach.binary hop (hleft _ (.operator hl hs hf.tame))
    (hright.reader (Level.below_not_end (Level.operators_not_end hl)) hf)

end

theorem Node.Reads.not (h : (Node.expr .equality e).Reads d tokens (.ofDepth d tokens m)) :
    (Node.expr .negation (.unary .not e)).Reads d tokens (.ofDepth d tokens (m + 1)) := by
  intro rest hf
  rw [Expr.lexemes_not]
  exact Reach.not (h.reader (by decide) hf) hf

/-! ## Tests -/

/-- The words that tests begin with. -/
def testWords : List String :=
  ["LIKE", "ILIKE", "BETWEEN", "IN", "IS"]

theorem Follows.test {w : String} {ls : List Lexeme} (hw : w ∈ "NOT" :: testWords)
    (htame : ∀ l ∈ ls, l.isTame = true) : Follows .bitwise (kw w :: ls) := by
  have hfacts : ∀ w ∈ "NOT" :: testWords,
      kw w ∈ Level.bitwise.followers ∧ (kw w).isTame = true := by decide
  exact .mark (hfacts w hw).1 (by simp) (hfacts w hw).2 htame

section

variable {g : Grammar} {e' : Expr}

/-- A test behind what it tests. -/
theorem Node.Reads.test {w : String} {ls : List Lexeme} (hw : w ∈ testWords)
    (h : (Node.expr .range e).Reads d tokens g)
    (hlexemes : e'.lexemes d = e.lexemes d ++ kw w :: ls) (htame : ∀ l ∈ ls, l.isTame = true)
    (ht : ∀ rest, Follows .bitwise rest → Parser.Reads (Parser.test g e) (kw w :: ls) (some e') rest) :
    (Node.expr .range e').Reads d tokens g := by
  intro rest hf
  rw [hlexemes]
  have hfollow : Follows .bitwise (kw w :: ls ++ rest) :=
    .test (List.mem_cons_of_mem _ hw) (tame_append htame hf.tame)
  refine (h _ hfollow).test (ht rest hf) ?_ (List.cons_ne_nil _ _)
  have hnot : ∀ w ∈ testWords, (kw w).isKeyword "NOT" = false := by decide
  simpa using hnot w hw

/-- A test behind `NOT`. -/
theorem Node.Reads.negatedTest {ls : List Lexeme} {t : Expr}
    (h : (Node.expr .range e).Reads d tokens g)
    (hlexemes : (negation t).lexemes d = e.lexemes d ++ kw "NOT" :: ls)
    (htame : ∀ l ∈ ls, l.isTame = true)
    (ht : ∀ rest, Follows .bitwise rest → Parser.Reads (Parser.test g e) ls (some t) rest) :
    (Node.expr .range (negation t)).Reads d tokens g := by
  intro rest hf
  rw [hlexemes]
  have hfollow : Follows .bitwise (kw "NOT" :: (ls ++ rest)) :=
    .test List.mem_cons_self (tame_append htame hf.tame)
  exact (h _ hfollow).negatedTest (ht rest hf)

theorem Node.Reads.between {low high : Expr} (h : (Node.expr .range e).Reads d tokens g)
    (hslow : low.Shape d) (hshigh : high.Shape d)
    (hlow : (Node.expr .bitwise low).Reads d tokens g)
    (hhigh : (Node.expr .bitwise high).Reads d tokens g)
    (hhead : (low.lexemes d).head?.any
      (fun l => l.reads "SYMMETRIC" || l.reads "ASYMMETRIC") = false) :
    (Node.expr .range (.between e low high)).Reads d tokens g := by
  have htame : ∀ l ∈ kw "AND" :: high.lexemes d, l.isTame = true :=
    List.forall_mem_cons.mpr ⟨by decide, hshigh.tame⟩
  refine h.test (by decide) (Expr.lexemes_between d e low high) (tame_append hslow.tame htame)
    fun rest hf => ?_
  have hand : Follows .bitwise (kw "AND" :: (high.lexemes d ++ rest)) :=
    .mark (by decide) (by decide) (by decide) (tame_append hshigh.tame hf.tame)
  exact test_reads_between (hlow.reader (by decide) hand) (hhigh.reader (by decide) hf)
    hslow.lexemes_ne_nil hhead

theorem Node.Reads.pattern {op : BinaryOp} {pattern : Expr}
    (hop : op ∈ [BinaryOp.like, .notLike, .ilike, .notIlike])
    (hopen : op.encloses e = false ∧ op.encloses pattern = false)
    (h : (Node.expr .range e).Reads d tokens g) (hs : pattern.Shape d)
    (hp : (Node.expr .bitwise pattern).Reads d tokens g) :
    (Node.expr .range (.binary op e pattern)).Reads d tokens g := by
  have hlexemes := Expr.lexemes_binary d hopen.1 hopen.2
  have hread {rest : List Lexeme} (hf : Follows .bitwise rest) := hp.reader (by decide) hf
  simp only [List.mem_cons, List.not_mem_nil, or_false] at hop
  rcases hop with rfl | rfl | rfl | rfl
  case inl =>
    exact h.test (w := "LIKE") (by decide) hlexemes hs.tame fun rest hf =>
      test_reads_pattern (.inl ⟨rfl, rfl⟩) (hread hf) hf
  case inr.inl =>
    exact h.negatedTest (t := .binary .like e pattern) hlexemes
      (List.forall_mem_cons.mpr ⟨by decide, hs.tame⟩) fun rest hf =>
        test_reads_pattern (.inl ⟨rfl, rfl⟩) (hread hf) hf
  case inr.inr.inl =>
    exact h.test (w := "ILIKE") (by decide) hlexemes hs.tame fun rest hf =>
      test_reads_pattern (.inr ⟨rfl, rfl⟩) (hread hf) hf
  case inr.inr.inr =>
    exact h.negatedTest (t := .binary .ilike e pattern) hlexemes
      (List.forall_mem_cons.mpr ⟨by decide, hs.tame⟩) fun rest hf =>
        test_reads_pattern (.inr ⟨rfl, rfl⟩) (hread hf) hf

theorem Node.Reads.isConstant {c : Constant} (hc : c = .null ∨ d.bitConstants = false)
    (hopen : BinaryOp.is.encloses e = false) (h : (Node.expr .range e).Reads d tokens g) :
    (Node.expr .range (.binary .is e (.constant c))).Reads d tokens g := by
  have htame : (kw (constantWord c)).isTame = true := by cases c <;> decide
  have hlexemes : (Expr.binary .is e (.constant c)).lexemes d =
      e.lexemes d ++ kw "IS" :: [kw (constantWord c)] := by
    rw [Expr.lexemes_binary d hopen rfl, Expr.lexemes_constant d hc]
    rfl
  refine h.test (by decide) hlexemes (by simpa using htame) fun rest hf => ?_
  by_cases hnull : c = .null
  · subst hnull
    exact test_reads_null hf
  · have htruth : (Node.expr .operand (.constant c)).Reads d tokens g :=
      .truth hnull (hc.resolve_left hnull)
    have hoperand := htruth.reader (by decide) hf.operand
    rw [Expr.lexemes_constant d hc] at hoperand
    have hreach : Reach g .bitwise [kw (constantWord c)] (.constant c) rest :=
      .of_operand hoperand (hf.toBelow (by decide)) (by decide)
    exact test_reads_truth hnull (hreach.reads hf) hf

theorem Node.Reads.isDistinct {isNegated : Bool} {right : Expr}
    (hopen : (if isNegated then BinaryOp.isNotDistinct else .isDistinct).encloses e = false ∧
      (if isNegated then BinaryOp.isNotDistinct else .isDistinct).encloses right = false)
    (h : (Node.expr .range e).Reads d tokens g) (hs : right.Shape d)
    (hright : (Node.expr .bitwise right).Reads d tokens g) :
    (Node.expr .range
      (.binary (if isNegated then .isNotDistinct else .isDistinct) e right)).Reads d tokens g := by
  have hlexemes := Expr.lexemes_binary d hopen.1 hopen.2
  have htame : ∀ l ∈ kw "DISTINCT" :: kw "FROM" :: right.lexemes d, l.isTame = true :=
    List.forall_mem_cons.mpr ⟨by decide, List.forall_mem_cons.mpr ⟨by decide, hs.tame⟩⟩
  cases isNegated with
  | false =>
    exact h.test (w := "IS") (by decide) hlexemes htame fun rest hf =>
      test_reads_distinct false (hright.reader (by decide) hf)
  | true =>
    exact h.test (w := "IS") (by decide) hlexemes (List.forall_mem_cons.mpr ⟨by decide, htame⟩)
      fun rest hf => test_reads_distinct true (hright.reader (by decide) hf)

end

/-- A choice between parentheses. -/
theorem Node.Reads.choice {g : Grammar} {choices : Expr} {ls : List Lexeme}
    (h : (Node.expr .range e).Reads d tokens g)
    (hlexemes : choices.lexemes d = .symbol "(" :: (ls ++ [.symbol ")"]))
    (hs : ∀ l ∈ ls, l.isTame = true)
    (hread : ∀ rest, Follows .bitwise rest →
      Parser.Reads (Parser.test g e) (kw "IN" :: .symbol "(" :: (ls ++ [.symbol ")"]))
        (some (.oneOf e choices)) rest) :
    (Node.expr .range (.oneOf e choices)).Reads d tokens g := by
  refine h.test (by decide) (by rw [Expr.lexemes_oneOf, hlexemes]) ?_ hread
  exact List.forall_mem_cons.mpr ⟨rfl, tame_append hs (List.forall_mem_cons.mpr ⟨rfl, nofun⟩)⟩

theorem Node.Reads.oneOf {es : List Expr} (hne : es ≠ []) (hq : ∀ q, es ≠ [.query q])
    (h : (Node.expr .range e).Reads d tokens (.ofDepth d tokens (m + 1)))
    (hs : ∀ x ∈ es, x.Shape d) (hc : ∀ x ∈ es, x.IsClosed)
    (hes : ∀ x ∈ es, (Node.expr .disjunction x).Reads d tokens (.ofDepth d tokens m)) :
    (Node.expr .range (.oneOf e (.tuple es))).Reads d tokens (.ofDepth d tokens (m + 1)) := by
  refine h.choice (Expr.lexemes_tuple d es) (tame_exprs hs) fun rest hf => ?_
  have hclosing : Follows .argument (.symbol ")" :: rest) := .closing (by decide) hf.tame
  have helement (x : Expr) (hx : x ∈ es) (rest : List Lexeme) (hf : Follows .argument rest) :
      Parser.Reads (queryOr (.ofDepth d tokens (m + 1)) (Grammar.ofDepth d tokens (m + 1)).assignment)
        (x.lexemes d) (some x) rest :=
    queryOr_reads (query_leaves_expr ((hs x hx).head_append rest) (tame_append (hs x hx).tame hf.tame))
      (assignment_reads ((hes x hx).condition (hf.condition rfl)) (hf.head_any (by decide)))
      (hs x hx).bare fun q hq => setOperations_leaves hf ((hc x hx).query q hq)
  have hlist := separated_exprs (by decide) hne hs helement hclosing rfl
  refine choices_reads ⟨es, hlist, .inl ⟨rfl, ?_, hq⟩⟩
  exact (List.map_congr_left fun x hx => (hs x hx).bare).trans (List.map_id es)

theorem Node.Reads.oneOfQuery (h : (Node.expr .range e).Reads d tokens (.ofDepth d tokens (m + 1)))
    (hs : q.Shape d) (hq : (Node.query q).Reads d tokens (.ofDepth d tokens m)) :
    (Node.expr .range (.oneOf e (.query (.nested q)))).Reads d tokens
      (.ofDepth d tokens (m + 1)) := by
  have hquery : ∀ l ∈ q.lexemes d, l.isTame = true := hs.written.tame
  refine h.choice (by rw [Expr.lexemes_query, Query.lexemes_nested]) hquery fun rest hf => ?_
  have htame : ∀ l ∈ Lexeme.symbol ")" :: rest, l.isTame = true :=
    List.forall_mem_cons.mpr ⟨rfl, hf.tame⟩
  have hread := hq .alone (.symbol ")" :: rest) (by decide) ⟨rfl, htame⟩
  refine choices_reads ⟨[.query q], separated_one (queryOr_reads_query hread) rfl,
    .inr ⟨q, rfl, rfl, ?_⟩⟩
  exact clauses_leaves (.closing (by decide) hf.tame) q

/-! ## Elements of lists -/

theorem Name.Writes.tame {n : Name} {l : Lexeme} (hn : n.Writes l) : l.isTame = true := by
  cases hn with
  | plain _ ht | quoted ht => exact ht

/-- What an operand is read as, where a condition ends behind it. -/
theorem Parser.Owns.condition {g : Grammar} {ls : List Lexeme} (h : Owns g ls e rest) (hne : ls ≠ [])
    (hhead : ls.head?.any (fun l => l.beginsType || beginsSign l) = false)
    (hf : Follows .disjunction rest) : Parser.Reads (disjunction g) ls (some e) rest := by
  have hreach : Reach g .disjunction ls e rest :=
    .of_operand (unary_reads_column h hne hhead hf.operand) (hf.toBelow (by decide)) (by decide)
  exact hreach.reads hf

/-- A star, where nothing is taken out of it. -/
theorem star_reads {g : Grammar} (hf : Follows .disjunction rest)
    (hstar : rest.head?.any (fun l => starWords.any l.reads) = false) :
    Parser.Reads (disjunction g) [.symbol "*"] (some .star) rest :=
  Owns.condition (.of_reference (reference_of_primary (primary_reads_star hstar))
    (noBrackets_of_follows hf.operand)) (List.cons_ne_nil _ _) rfl hf

theorem Node.Reads.argumentStar :
    (Node.argument .star).Reads d tokens (.ofDepth d tokens (m + 1)) := by
  intro canAlias rest hf
  have htame : ∀ l ∈ [Lexeme.symbol "*"] ++ rest, l.isTame = true :=
    List.forall_mem_cons.mpr ⟨rfl, hf.tame⟩
  have hstar := star_reads (g := .ofDepth d tokens m) (hf.condition rfl) (hf.head_any (by decide))
  rw [Expr.lexemes_star]
  exact argument_reads htame (query_leaves_expr rfl htame)
    (assignment_reads hstar (hf.head_any (by decide))) rfl nofun rfl hf

section

variable {g : Grammar}

theorem Node.Reads.itemStar : (Node.item .star).Reads d tokens g := by
  intro rest hf
  rw [Expr.lexemes_star]
  exact item_reads (star_reads (hf.condition rfl) (hf.head_any (by decide))) hf

theorem Node.Reads.itemStarOf (h : (Node.path e).Reads d tokens g) (hs : (Node.path e).Shape d) :
    (Node.item (.field e .star)).Reads d tokens g := by
  intro rest hf
  have hcondition : Follows .disjunction rest := hf.condition rfl
  have hbrackets : noBrackets rest := noBrackets_of_follows hcondition.operand
  have howner := h (.symbol "." :: ([.symbol "*"] ++ rest)) rfl rfl
  rw [Expr.lexemes_field, Expr.lexemes_star]
  have howns : Owns g (e.lexemes d ++ .symbol "." :: [.symbol "*"]) (.field e .star) rest :=
    howner.field (member_reads_star hcondition.operand.noParen (hf.head_any (by decide))) hbrackets
      hs.1.bare rfl
  refine item_reads (howns.condition (by simp) ?_ hcondition) hf
  rw [Lexeme.head?_append hs.1.lexemes_ne_nil]
  exact hs.path_head

theorem Node.Reads.itemAliased {n : Name} {l : Lexeme} (hn : n.Writes l) (hl : l.isNoName = false)
    (h : (Node.expr .disjunction e).Reads d tokens g) (hs : e.Shape d) :
    (Node.item (.aliased e (.name n))).Reads d tokens g := by
  intro rest hf
  have hbehind : Follows .disjunction (kw "AS" :: l :: rest) :=
    .mark (by decide) (by decide) (by decide) (List.forall_mem_cons.mpr ⟨hn.tame, hf.tame⟩)
  rw [Expr.lexemes_aliased, Expr.lexemes_name hn]
  exact item_reads_aliased hs.bare hn.asName? hl (h.condition hbehind)

end

theorem Node.Reads.key (direction : Option Direction) (nullsFirst : Bool)
    (h : (Node.expr .disjunction e).Reads d tokens (.ofDepth d tokens m)) :
    (Node.key (.sorted e direction nullsFirst)).Reads d tokens (.ofDepth d tokens (m + 1)) := by
  intro rest hf
  rw [Expr.lexemes_sorted]
  refine sortKey_reads (h.condition ?_) hf
  have hnulls : Follows .disjunction (nullsLexemes d direction nullsFirst ++ rest) := by
    rw [nullsLexemes]
    split
    · exact hf.condition rfl
    · refine .mark (by decide) (by decide) (by decide) (List.forall_mem_cons.mpr ⟨?_, hf.tame⟩)
      cases nullsFirst <;> decide
  cases direction with
  | none => exact hnulls
  | some direction =>
    cases direction <;> exact .mark (by decide) (by decide) (by decide) hnulls.tame

end QueryBook.Sql
