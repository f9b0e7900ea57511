import QueryBook.Proofs.Sql.Reader.Type
import QueryBook.Sql.Parser.Expression

/-!
# Reading expressions level by level

Each level of operators is read by a loop behind a first value (`reader_eq`). That a level has read
an expression, and may go on behind it, is `Reach`: a phrase of a lower level rises to the next one
where no operator of the lower one follows (`Reach.rise`), an operator takes an operand behind it
(`Reach.binary`), and where nothing of the level follows the reader is done (`Reach.reads`).
-/

namespace QueryBook.Sql

open Lexeme (kw lastOf)

namespace Parser

variable {α : Type}

/-! ## Loops behind a first value -/

/-- A parser reads a first value from some lexemes, and a step leads on to another one. -/
def Reaches (p : Parser α) (step : α → Parser (Option α)) (ls : List Lexeme) (a : α)
    (rest : List Lexeme) : Prop :=
  ∀ last?, ∃ b c, p (.before last? (ls ++ rest)) = some (b, c) ∧
    Steps step b c a (.before (lastOf last? ls) rest)

namespace Reaches

variable {p : Parser α} {step : α → Parser (Option α)} {ls ms rest : List Lexeme} {a b : α}

theorem of_reads (h : Reads p ls a rest) : Reaches p step ls a rest :=
  fun last? => ⟨_, _, h last?, .refl ..⟩

/-- One more step. -/
theorem more (h : Reaches p step ls a (ms ++ rest)) (hstep : Reads (step a) ms (some b) rest)
    (hms : ms ≠ []) : Reaches p step (ls ++ ms) b rest := by
  intro last?
  obtain ⟨a₀, c, hp, hs⟩ := h last?
  refine ⟨a₀, c, by simpa using hp, hs.trans ?_⟩
  rw [Lexeme.lastOf_append]
  refine .single (hstep _) ?_
  simpa using List.length_pos_iff.mpr hms

/-- The loop ends where its step finds nothing. -/
theorem reads (h : Reaches p step ls a rest) (hend : Leaves (step a) none rest) :
    Reads (p >>= iterate step) ls a rest := by
  intro last?
  obtain ⟨b, c, hp, hs⟩ := h last?
  rw [run_bind, hp, Option.bind_some, hs.iterate_eq (hend _)]

end Reaches

/-! ## Chains of operators -/

/-- One step of a chain: an operator and the operand behind it. -/
def chainStep (op? : Lexeme → Option BinaryOp) (operand : Parser (Option Expr))
    (left : Option Expr) : Parser (Option (Option Expr)) := do
  let some op := (← ahead?).bind op? | return none
  advance
  let comments ← pending
  let some left := left | failure
  let right ← required operand
  return some (some (← madeWith comments (.binary op left right)))

theorem chain_eq (op? : Lexeme → Option BinaryOp) (operand : Parser (Option Expr)) :
    chain op? operand = operand >>= iterate (chainStep op? operand) := rfl

section

variable {op? : Lexeme → Option BinaryOp} {operand : Parser (Option Expr)} {ls rest : List Lexeme}

/-- An operator with its right operand. -/
theorem chainStep_reads {l : Lexeme} {op : BinaryOp} {left right : Expr} (hop : op? l = some op)
    (h : Reads operand ls (some right) rest) :
    Reads (chainStep op? operand (some left)) (l :: ls) (some (some (.binary op left right)))
      rest := by
  intro last?
  simp [chainStep, hop, required, h _]

theorem chainStep_leaves {left : Option Expr} (hop : rest.head?.bind op? = none) :
    Leaves (chainStep op? operand left) none rest := by
  intro last?
  simp [chainStep, hop]
 
end
/-! ## Levels below tests -/

/-- The operators of a dialect depend on whether signs join conditions. -/
theorem bitOp?_plain (d : Dialect) :
    bitOp? d = bitOp? (if d.conditionSigns then .mysql else .generic) := by
  funext l
  cases h : d.conditionSigns <;> simp [bitOp?, h] <;> rfl

theorem testOp?_plain (d : Dialect) :
    testOp? d = testOp? (if d.conditionSigns then .mysql else .generic) := by
  funext l
  cases h : d.conditionSigns <;> simp [testOp?, h] <;> rfl

theorem conjunctionOp?_plain (d : Dialect) :
    conjunctionOp? d = conjunctionOp? (if d.conditionSigns then .mysql else .generic) := by
  funext l
  cases h : d.conditionSigns <;> simp [conjunctionOp?, h] <;> rfl

theorem disjunctionOp?_plain (d : Dialect) :
    disjunctionOp? d = disjunctionOp? (if d.conditionSigns then .mysql else .generic) := by
  funext l
  cases h : d.conditionSigns <;> simp [disjunctionOp?, h] <;> rfl

section

variable (g : Grammar)

/-- One step of a row of products. -/
def factorStep (left : Option Expr) : Parser (Option (Option Expr)) := do
  let c ← get
  if ← keyword "DIV" then
    match ← unary g with
    | none =>
      retreat c
      return none
    | some right =>
      let some left := left | failure
      let quotient := Expr.binary .divide left right
      discard taken
      return some (some (.cast false quotient (.type "BIGINT" [] false)))
  else
    let some op := (← ahead?).bind productOp? | return none
    advance
    let comments ← pending
    let some left := left | failure
    let right ← required (unary g)
    return some (some (← madeWith comments (.binary op left right)))

theorem factor_eq : factor g = (unary g >>= inTimeZone g) >>= iterate (factorStep g) :=
  (bind_assoc ..).symm

/-- One step of a row of operators on bits. -/
def bitwiseStep (left : Option Expr) : Parser (Option (Option Expr)) := do
  if ← symbol "??" then
    let some left := left | failure
    let right ← required (term g)
    return some (some (← made (.calling "COALESCE" [left, right])))
  else
    let op? ← do
      match (← ahead?).bind (bitOp? g.dialect) with
      | some op =>
        advance
        pure (some op)
      | none => shift
    let some op := op? | return none
    let some left := left | failure
    let right ← required (term g)
    return some (some (← made (.binary op left right)))

theorem bitwise_eq : bitwise g = term g >>= iterate (bitwiseStep g) := rfl

/-- One step of a row of tests. -/
def rangeStep (e? : Option Expr) : Parser (Option (Option Expr)) := do
  let c ← get
  let isNegated ← keyword "NOT"
  let tested? ← do
    match e? with
    | none => pure none
    | some e =>
      match ← test g e with
      | some e => pure (some e)
      | none =>
        if ← keyword "ISNULL" <||> (pure isNegated <&&> keyword "NULL") then
          pure (some (← made (.binary .is e (.constant .null))))
        else if ← keyword "NOTNULL" then
          pure (some (.unary .not (← made (.binary .is e (.constant .null)))))
        else pure none
  match tested? with
  | none =>
    retreat c
    return none
  | some e => return some (some (if isNegated then negation e else e))

theorem range_eq : range g = bitwise g >>= iterate (rangeStep g) := rfl

variable {g} {ls rest : List Lexeme}

/-! ### Steps -/

theorem factorStep_reads {l : Lexeme} {op : BinaryOp} {left right : Expr}
    (hop : productOp? l = some op) (hdiv : l.isKeyword "DIV" = false)
    (h : Reads (unary g) ls (some right) rest) :
    Reads (factorStep g (some left)) (l :: ls) (some (some (.binary op left right))) rest := by
  intro last?
  simp [factorStep, hdiv, hop, required, h _]

theorem bitwiseStep_reads {l : Lexeme} {op : BinaryOp} {left right : Expr}
    (hop : bitOp? g.dialect l = some op) (hl : l.isSymbol "??" = false)
    (h : Reads (term g) ls (some right) rest) :
    Reads (bitwiseStep g (some left)) (l :: ls) (some (some (.binary op left right))) rest := by
  intro last?
  simp [bitwiseStep, hl, hop, required, h _]

/-! ### Ends -/

theorem inTimeZone_leaves (h : Follows .operand rest) (e? : Option Expr) :
    Leaves (inTimeZone g e?) e? rest :=
  iterate_leaves fun last? => by simp [h.reads "AT" ["TIME", "ZONE"] (by decide) last?]

theorem factorStep_leaves (h : Follows .factor rest) (e? : Option Expr) :
    Leaves (factorStep g e?) none rest := by
  intro last?
  have hop : rest.head?.bind productOp? = none := h.op?_eq_none (by decide)
  simp [factorStep, h.keyword "DIV" (by decide) last?, hop]

theorem termStep_leaves (h : Follows .term rest) (e? : Option Expr) :
    Leaves (chainStep sumOp? (factor g) e?) none rest :=
  chainStep_leaves (h.op?_eq_none (by decide))

theorem shift_leaves (h : Follows .bitwise rest) : Leaves shift none rest := by
  intro last?
  simp [shift, h.acceptTwice "<" (.inl rfl) last?, h.acceptTwice ">" (.inr rfl) last?]

theorem bitwiseStep_leaves (h : Follows .bitwise rest) (e? : Option Expr) :
    Leaves (bitwiseStep g e?) none rest := by
  intro last?
  have hop : rest.head?.bind (bitOp? g.dialect) = none := by
    rw [bitOp?_plain]
    split <;> exact h.op?_eq_none (by decide)
  simp [bitwiseStep, h.symbol "??" (by decide) last?, hop, shift_leaves h last?]


theorem test_leaves (h : Follows .range rest) (e : Expr) : Leaves (test g e) none rest := by
  intro last?
  have hop : rest.head?.bind (testOp? g.dialect) = none := by
    rw [testOp?_plain]
    split <;> exact h.op?_eq_none (by decide)
  simp only [test, h.keyword "BETWEEN" (by decide) last?, h.keyword "IN" (by decide) last?,
    h.keyword "IS" (by decide) last?, h.keyword "RLIKE" (by decide) last?,
    h.symbol "~*" (by decide) last?, hop, run_bind, run_pure, run_ite, run_get, run_discard,
    run_ahead?, Option.bind_some, if_false, Bool.false_eq_true]

theorem rangeStep_leaves (h : Follows .range rest) (e? : Option Expr) :
    Leaves (rangeStep g e?) none rest := by
  intro last?
  cases e? with
  | none => simp [rangeStep, h.keyword "NOT" (by decide) last?]
  | some e =>
    simp [rangeStep, h.keyword "NOT" (by decide) last?, test_leaves h e last?,
      h.keyword "ISNULL" (by decide) last?, h.keyword "NOTNULL" (by decide) last?]

theorem comparisonStep_leaves (h : Follows .comparison rest) (e? : Option Expr) :
    Leaves (chainStep comparisonOp? (range g) e?) none rest :=
  chainStep_leaves (h.op?_eq_none (by decide))

theorem equalityStep_leaves (h : Follows .equality rest) (e? : Option Expr) :
    Leaves (chainStep equalityOp? (comparison g) e?) none rest :=
  chainStep_leaves (h.op?_eq_none (by decide))

theorem conjunctionStep_leaves (h : Follows .conjunction rest) (e? : Option Expr) :
    Leaves (chainStep (conjunctionOp? g.dialect) (equality g) e?) none rest := by
  refine chainStep_leaves ?_
  rw [conjunctionOp?_plain]
  split <;> exact h.op?_eq_none (by decide)

theorem disjunctionStep_leaves (h : Follows .disjunction rest) (e? : Option Expr) :
    Leaves (chainStep (disjunctionOp? g.dialect) (conjunction g) e?) none rest := by
  refine chainStep_leaves ?_
  rw [disjunctionOp?_plain]
  split <;> exact h.op?_eq_none (by decide)


/-! ## Operands with signs -/

theorem unary_reads_negative {e : Expr} (h : Reads g.unary ls (some e) rest) :
    Reads (unary g) (.symbol "-" :: ls) (some (.unary .negative e)) rest := by
  intro last?
  simp [unary, required, h _]

theorem unary_reads_not {e : Expr} (h : Reads g.equality ls (some e) rest) :
    Reads (unary g) (kw "NOT" :: ls) (some (.unary .not e)) rest := by
  intro last?
  simp [unary, required, h _]

/-- Whether a sign before an operand is the lexeme. -/
def beginsSign (l : Lexeme) : Bool :=
  l.isSymbol "+" || l.isKeyword "NOT" || l.isSymbol "~" || l.isSymbol "-"

/-- Without a sign, an operand is read as such. -/
theorem unary_eq_operand {last? : Option Lexeme} (h : ls.head?.any beginsSign = false) :
    unary g (.before last? ls) = operand g (.before last? ls) := by
  have hplus := symbol_leaves "+" (any_eq_false h (by simp_all [beginsSign])) last?
  have hnot := keyword_leaves "NOT" (any_eq_false h (by simp_all [beginsSign])) last?
  have htilde := symbol_leaves "~" (any_eq_false h (by simp_all [beginsSign])) last?
  have hminus := symbol_leaves "-" (any_eq_false h (by simp_all [beginsSign])) last?
  simp [unary, hplus, hnot, htilde, hminus]

/-! ## Levels -/

variable (g) in
/-- The reader of a level of operators. -/
def reader : Level → Parser (Option Expr)
  | .operand => unary g
  | .factor => factor g
  | .term => term g
  | .bitwise => bitwise g
  | .range => range g
  | .comparison => comparison g
  | .equality | .negation => equality g
  | .conjunction => conjunction g
  | .disjunction => disjunction g
  | .item => item g
  | .argument | .table | .join | .clause | .key | .clauses => failure

variable (g) in
/-- What the reader of a level reads first. -/
def firstReader : Level → Parser (Option Expr)
  | .factor => unary g >>= inTimeZone g
  | .term => factor g
  | .bitwise => term g
  | .range => bitwise g
  | .comparison => range g
  | .equality => comparison g
  | .conjunction => equality g
  | .disjunction => conjunction g
  | level => reader g level

variable (g) in
/-- What the reader of a level repeats then. -/
def levelStep : Level → Option Expr → Parser (Option (Option Expr))
  | .factor => factorStep g
  | .term => chainStep sumOp? (factor g)
  | .bitwise => bitwiseStep g
  | .range => rangeStep g
  | .comparison => chainStep comparisonOp? (range g)
  | .equality => chainStep equalityOp? (comparison g)
  | .conjunction => chainStep (conjunctionOp? g.dialect) (equality g)
  | .disjunction => chainStep (disjunctionOp? g.dialect) (conjunction g)
  | _ => fun _ => return none

theorem bind_iterate_none {α : Type} (p : Parser α) : p >>= iterate (fun _ => return none) = p := by
  funext c
  rw [run_bind]
  cases p c <;> simp [iterate, repeatUpTo]

theorem reader_eq (level : Level) :
    reader g level = firstReader g level >>= iterate (levelStep g level) := by
  cases level with
  | factor => exact factor_eq g
  | term => exact chain_eq ..
  | bitwise => exact bitwise_eq g
  | range => exact range_eq g
  | comparison => exact chain_eq ..
  | equality => exact chain_eq ..
  | conjunction => exact chain_eq ..
  | disjunction => exact chain_eq ..
  | _ => exact (bind_iterate_none _).symm

/-- Where no operator of a level follows, its loop ends. -/
theorem levelStep_leaves {level : Level} (h : Follows level rest) (e? : Option Expr) :
    Leaves (levelStep g level e?) none rest := by
  cases level with
  | factor => exact factorStep_leaves h e?
  | term => exact termStep_leaves h e?
  | bitwise => exact bitwiseStep_leaves h e?
  | range => exact rangeStep_leaves h e?
  | comparison => exact comparisonStep_leaves h e?
  | equality => exact equalityStep_leaves h e?
  | conjunction => exact conjunctionStep_leaves h e?
  | disjunction => exact disjunctionStep_leaves h e?
  | _ => exact fun _ => rfl

variable (g) in
/-- The reader of a level has read an expression, behind which it may go on. -/
def Reach (level : Level) (ls : List Lexeme) (e : Expr) (rest : List Lexeme) : Prop :=
  Reaches (firstReader g level) (levelStep g level) ls (some e) rest

theorem Reach.reads {level : Level} {e : Expr} (h : Reach g level ls e rest)
    (hf : Follows level rest) : Reads (reader g level) ls (some e) rest := by
  rw [reader_eq]
  exact Reaches.reads h (levelStep_leaves hf _)

theorem Reach.of_reads {level : Level} {e : Expr}
    (h : Reads (firstReader g level) ls (some e) rest) : Reach g level ls e rest :=
  Reaches.of_reads h

/-! ## From level to level -/

theorem Reads.bind {α β : Type} {p : Parser α} {q : α → Parser β} {a : α} {b : β}
    (hp : Reads p ls a rest) (hq : Leaves (q a) b rest) : Reads (p >>= q) ls b rest := by
  intro last?
  rw [run_bind, hp last?, Option.bind_some, hq]

/-- A phrase of one level is a phrase of the next one. -/
theorem Reach.rise {level : Level} {e : Expr} (h : Reach g level.below ls e rest)
    (hf : Follows level.below rest) : Reach g level ls e rest := by
  have hreads := h.reads hf
  cases level with
  | factor => exact .of_reads (hreads.bind (inTimeZone_leaves hf _))
  | argument | item | table | join | clause | key | clauses | operand => exact h
  | _ => exact .of_reads hreads

/-- The operator of a level. -/
def operator? (d : Dialect) : Level → Lexeme → Option BinaryOp
  | .factor => productOp?
  | .term => sumOp?
  | .bitwise => bitOp? d
  | .comparison => comparisonOp?
  | .equality => equalityOp?
  | .conjunction => conjunctionOp? d
  | .disjunction => disjunctionOp? d
  | _ => fun _ => none

/-- An operator with an operand on both sides. -/
theorem Reach.binary {level : Level} {op : BinaryOp} {l : Lexeme} {rs : List Lexeme}
    {left right : Expr} (hop : operator? g.dialect level l = some op)
    (hleft : Reach g level ls left (l :: (rs ++ rest)))
    (hright : Reads (reader g level.below) rs (some right) rest) :
    Reach g level (ls ++ l :: rs) (.binary op left right) rest := by
  refine Reaches.more hleft ?_ (List.cons_ne_nil _ _)
  cases level with
  | factor =>
    refine factorStep_reads hop ?_ hright
    cases l <;> simp_all [operator?, productOp?, symbolOp?, Lexeme.isKeyword]
  | bitwise =>
    refine bitwiseStep_reads hop ?_ hright
    cases l with
    | symbol s =>
      simp only [Lexeme.isSymbol, beq_eq_false_iff_ne]
      rintro rfl
      cases hop
    | _ => rfl
  | term | comparison | equality | conjunction | disjunction => exact chainStep_reads hop hright
  | _ => cases hop

/-! ## Tests -/

theorem Reach.test {e e' : Expr} {ms : List Lexeme} (h : Reach g .range ls e (ms ++ rest))
    (ht : Reads (test g e) ms (some e') rest) (hnot : ms.head?.any (·.isKeyword "NOT") = false)
    (hms : ms ≠ []) : Reach g .range (ls ++ ms) e' rest := by
  refine Reaches.more h (fun last? => ?_) hms
  have hnone : (ms ++ rest).head?.any (·.isKeyword "NOT") = false := by
    rwa [Lexeme.head?_append hms]
  simp [levelStep, rangeStep, keyword_leaves _ hnone last?, ht last?]

theorem Reach.negatedTest {e e' : Expr} {ms : List Lexeme}
    (h : Reach g .range ls e (kw "NOT" :: (ms ++ rest)))
    (ht : Reads (Parser.test g e) ms (some e') rest) :
    Reach g .range (ls ++ kw "NOT" :: ms) (negation e') rest := by
  refine Reaches.more h (fun last? => ?_) (List.cons_ne_nil _ _)
  simp [levelStep, rangeStep, ht _]

theorem test_reads_between {e low high : Expr} {hs : List Lexeme}
    (hlow : Reads (bitwise g) ls (some low) (kw "AND" :: (hs ++ rest)))
    (hhigh : Reads (bitwise g) hs (some high) rest) (hls : ls ≠ [])
    (hsym : ls.head?.any (fun l => l.reads "SYMMETRIC" || l.reads "ASYMMETRIC") = false) :
    Reads (test g e) (kw "BETWEEN" :: ls ++ kw "AND" :: hs) (some (.between e low high)) rest := by
  intro last?
  have hhead (word : String) (hw : word = "SYMMETRIC" ∨ word = "ASYMMETRIC") :
      Leaves (reads [word]) false (ls ++ kw "AND" :: (hs ++ rest)) := fun last? => by
    have hnone : (ls ++ kw "AND" :: (hs ++ rest)).head?.any (·.reads word) = false := by
      rw [Lexeme.head?_append hls]
      exact any_eq_false hsym fun l hl => by rcases hw with rfl | rfl <;> simp [hl]
    simp [Parser.reads, run_accept_of_not last? _ hnone]
  simp only [test, bounds, hhead "SYMMETRIC" (.inl rfl) _, hhead "ASYMMETRIC" (.inr rfl) _,
    required, hlow _, hhigh _, run_bind, run_pure, run_ite, run_get, run_discard, run_made,
    run_keyword, Option.bind_some, Option.map_some, List.append_assoc, List.cons_append, if_true,
    if_false, ite_self, Bool.false_eq_true, beq_self_eq_true, Lexeme.isKeyword_keyword,
    Lexeme.lastOf_append, Lexeme.lastOf_cons]

/-- A pattern that no character escapes in. -/
theorem test_reads_pattern {e pattern : Expr} {op : BinaryOp} {l : Lexeme}
    (hop : l = kw "LIKE" ∧ op = .like ∨ l = kw "ILIKE" ∧ op = .ilike)
    (hp : Reads (bitwise g) ls (some pattern) rest) (hf : Follows .bitwise rest) :
    Reads (test g e) (l :: ls) (some (.binary op e pattern)) rest := by
  intro last?
  have htest : testOp? g.dialect l = some op := by
    rcases hop with ⟨rfl, rfl⟩ | ⟨rfl, rfl⟩ <;> rfl
  have hword (kind : String) (hk : kind ∈ ["BETWEEN", "IN", "IS", "RLIKE"]) :
      l.isKeyword kind = false := by
    rcases hop with ⟨rfl, -⟩ | ⟨rfl, -⟩ <;> revert kind <;> decide
  have hsign : l.isSymbol "~*" = false := by
    rcases hop with ⟨rfl, -⟩ | ⟨rfl, -⟩ <;> rfl
  have hescape := hf.keyword "ESCAPE" (by decide)
  simp only [test, hword "BETWEEN" (by simp), hword "IN" (by simp), hword "IS" (by simp),
    hword "RLIKE" (by simp), hsign, htest, required, hp _, escaped, hescape _, run_bind, run_pure,
    run_ite, run_get, run_discard, run_ahead?, run_advance, run_made, run_keyword, run_symbol,
    Option.bind_some, List.cons_append, List.head?_cons, if_false, Bool.false_eq_true,
    Lexeme.lastOf_cons]

end

section

variable {g : Grammar} {ls ms rest : List Lexeme} {e : Expr}

/-! ## Operands -/

/-- A path, a call or a literal as an operand. -/
theorem unary_reads_column (h : Owns g ls e rest) (hls : ls ≠ [])
    (hhead : ls.head?.any (fun l => l.beginsType || beginsSign l) = false)
    (hf : Follows .operand rest) : Reads (unary g) ls (some e) rest := by
  have hhead : (ls ++ rest).head?.any (fun l => l.beginsType || beginsSign l) = false := by
    rwa [Lexeme.head?_append hls]
  intro last?
  rw [unary_eq_operand (any_eq_false hhead fun l hl => by simp [hl]),
    operand_eq_column (any_eq_false hhead fun l hl => by simp [hl]), h.column_reads hf last?]

/-- The name of a type as an operand. -/
theorem unary_reads_typeName {kind s : String} (h : Owns g [.keyword kind s] e rest)
    (hkind : Keyword.isType kind = true) (hinterval : kind ≠ "INTERVAL") (hf : Follows .factor rest)
    (hangle : kind ∈ Keyword.nestedTypes → rest.head?.any (·.isSymbol "<") = false) :
    Reads (unary g) [.keyword kind s] (some e) rest := by
  have hnot : kind ≠ "NOT" := by
    rintro rfl
    revert hkind
    decide
  have hleaves : Leaves (interval g) none (.keyword kind s :: rest) :=
    interval_leaves (by simpa using hinterval)
  have htyped := typedLiteral_leaves_word (g := g) (s := s) hkind hinterval hf hangle
  have hcolumn := h.column_reads hf.operand
  intro last?
  simp only [List.singleton_append]
  rw [unary_eq_operand (by simpa [beginsSign] using hnot)]
  simp [operand, hleaves last?, htyped last?, hcolumn.one]

/-- An operand as a phrase of a level of operators. -/
theorem Reach.of_operand {level : Level} (h : Reads (unary g) ls (some e) rest)
    (hf : Follows level.below rest) (hl : level ∉ Level.ends) :
    Reach g level ls e rest := by
  have hfactor (hf : Follows .operand rest) : Reach g .factor ls e rest :=
    Reach.rise (.of_reads h) hf
  have hterm (hf : Follows .factor rest) : Reach g .term ls e rest := (hfactor hf.operand).rise hf
  have hbitwise (hf : Follows .term rest) : Reach g .bitwise ls e rest :=
    (hterm (hf.below (by simp [Level.above]) (by decide))).rise hf
  have hrange (hf : Follows .bitwise rest) : Reach g .range ls e rest :=
    (hbitwise (hf.below (by simp [Level.above]) (by decide))).rise hf
  have hcomparison (hf : Follows .range rest) : Reach g .comparison ls e rest :=
    (hrange (hf.below (by simp [Level.above]) (by decide))).rise hf
  have hequality (hf : Follows .comparison rest) : Reach g .equality ls e rest :=
    (hcomparison (hf.below (by simp [Level.above]) (by decide))).rise hf
  have hnegation (hf : Follows .equality rest) : Reach g .negation ls e rest :=
    (hequality (hf.below (by simp [Level.above]) (by decide))).rise hf
  have hconjunction (hf : Follows .negation rest) : Reach g .conjunction ls e rest :=
    (hnegation (hf.below (by simp [Level.above]) (by decide))).rise hf
  have hdisjunction (hf : Follows .conjunction rest) : Reach g .disjunction ls e rest :=
    (hconjunction (hf.below (by simp [Level.above]) (by decide))).rise hf
  cases level with
  | operand => exact .of_reads h
  | factor => exact hfactor hf
  | term => exact hterm hf
  | bitwise => exact hbitwise hf
  | range => exact hrange hf
  | comparison => exact hcomparison hf
  | equality => exact hequality hf
  | negation => exact hnegation hf
  | conjunction => exact hconjunction hf
  | disjunction => exact hdisjunction hf
  | _ => simp [Level.ends] at hl

/-- A negated condition. -/
theorem Reach.not (h : Reads g.equality ls (some e) rest) (hf : Follows .equality rest) :
    Reach g .negation (kw "NOT" :: ls) (.unary .not e) rest :=
  .of_operand (unary_reads_not h) hf (by decide)

/-! ## Further tests -/

/-- A test behind `IS`. -/
theorem test_reads_identity {e? : Option Expr} (h : ∀ c, Reads (identity g e c) ls e? rest) :
    Reads (test g e) (kw "IS" :: ls) e? rest := by
  intro last?
  simp only [test, run_bind, run_get, Option.bind_some, List.cons_append, run_keyword,
    Lexeme.isKeyword_keyword, String.reduceBEq, Bool.false_eq_true, if_false, beq_self_eq_true,
    if_true, h _ _, Lexeme.lastOf_cons]

/-- A test against a constant. -/
theorem test_reads_null (hf : Follows .bitwise rest) :
    Reads (test g e) [kw "IS", kw "NULL"] (some (.binary .is e (.constant .null))) rest := by
  refine test_reads_identity fun c last? => ?_
  have hdistinct : Leaves (reads ["DISTINCT", "FROM"]) false (kw "NULL" :: rest) :=
    reads_leaves (by decide : (kw "NULL").reads "DISTINCT" = false)
  have hkind : "NULL" ∈ ["NULL", "UNKNOWN"] := List.mem_cons_self
  have hnull (last? : Option Lexeme) := (keywordOf_reads hkind "NULL" rest).one last?
  have hend := columnOps_leaves (g := g) hf.operand (.binary .is e (.constant .null))
  simp only [identity, null, run_bind, run_pure, run_keyword, List.cons_append, List.nil_append,
    Lexeme.isKeyword_keyword, String.reduceBEq, Bool.false_eq_true, if_false, hdistinct _, hnull _,
    run_made, hend _, Option.bind_some, Option.isSome_some, if_true, Lexeme.lastOf_cons,
    Lexeme.lastOf_nil]

theorem test_reads_truth {c : Constant} (hc : c ≠ .null)
    (h : Reads (bitwise g) [kw (constantWord c)] (some (.constant c)) rest)
    (hf : Follows .bitwise rest) :
    Reads (test g e) [kw "IS", kw (constantWord c)] (some (.binary .is e (.constant c))) rest := by
  refine test_reads_identity fun start last? => ?_
  have hword : constantWord c ∈ ["TRUE", "FALSE"] := by
    cases c <;> simp [constantWord] at hc ⊢
  have hdistinct : Leaves (reads ["DISTINCT", "FROM"]) false (kw (constantWord c) :: rest) := by
    refine reads_leaves (show (kw (constantWord c)).reads "DISTINCT" = false from ?_)
    revert hword
    cases c <;> decide
  have hkeyword (kind : String) (hk : kind ∈ ["NOT", "JSON", "NULL", "UNKNOWN"]) :
      (constantWord c == kind) = false := by
    revert hword kind
    cases c <;> decide
  have hid : Leaves (placeholder g) none (kw (constantWord c) :: rest) := placeholder_leaves rfl
  have hend := columnOps_leaves (g := g) hf.operand (.binary .is e (.constant c))
  have hnull : Leaves (keywordOf ["NULL", "UNKNOWN"]) none (kw (constantWord c) :: rest) :=
    keywordOf_leaves fun kind hk => hkeyword kind (List.mem_cons_of_mem _ (List.mem_cons_of_mem _ hk))
  simp only [identity, null, run_bind, run_pure, run_keyword, List.cons_append, List.nil_append,
    Lexeme.isKeyword_keyword, hkeyword "NOT" (by simp), hkeyword "JSON" (by simp),
    Bool.false_eq_true, if_false, hdistinct _, hnull _, hid _, h.one, run_made, hend _,
    Option.bind_some, Option.isSome_none, Lexeme.lastOf_cons, Lexeme.lastOf_nil]

/-- A test for difference that holds of no value as well. -/
theorem test_reads_distinct {right : Expr} (isNegated : Bool)
    (h : Reads (bitwise g) ls (some right) rest) :
    Reads (test g e) ((if isNegated then [kw "IS", kw "NOT"] else [kw "IS"]) ++
        kw "DISTINCT" :: kw "FROM" :: ls)
      (some (.binary (if isNegated then .isNotDistinct else .isDistinct) e right)) rest := by
  have hwords : (if isNegated then [kw "IS", kw "NOT"] else [kw "IS"]) ++
      kw "DISTINCT" :: kw "FROM" :: ls =
      kw "IS" :: ((if isNegated then [kw "NOT"] else []) ++ kw "DISTINCT" :: kw "FROM" :: ls) := by
    cases isNegated <;> rfl
  rw [hwords]
  refine test_reads_identity fun c last? => ?_
  have hreads : Reads (reads ["DISTINCT", "FROM"]) [kw "DISTINCT", kw "FROM"] true (ls ++ rest) := by
    intro last?
    have h1 : (kw "DISTINCT").reads "DISTINCT" = true := by decide
    have h2 : (kw "FROM").reads "FROM" = true := by decide
    simp [Parser.reads, h1, h2]
  have hrun (last? : Option Lexeme) := hreads last?
  simp only [List.cons_append, List.nil_append, Lexeme.lastOf_cons, Lexeme.lastOf_nil] at hrun
  cases isNegated <;>
    simp only [identity, hrun, required, h _, run_bind, run_pure, run_ite, run_discard, run_made,
      run_keyword, Option.bind_some, List.append_assoc, List.cons_append, List.nil_append,
      List.map_cons, if_true, if_false, Bool.false_eq_true, beq_self_eq_true, String.reduceBEq,
      Lexeme.isKeyword_keyword, Lexeme.lastOf_cons]

/-- The values behind `IN`. -/
theorem test_reads_choices {e' : Expr} (h : Reads (choices g e) ls e' rest) :
    Reads (test g e) (kw "IN" :: ls) (some e') rest := by
  intro last?
  simp only [test, run_bind, run_get, run_pure, Option.bind_some, List.cons_append, run_keyword,
    Lexeme.isKeyword_keyword, String.reduceBEq, Bool.false_eq_true, if_false, beq_self_eq_true,
    if_true, h _, Lexeme.lastOf_cons]

theorem choices_reads {choice : Expr}
    (h : ∃ es, Reads (separated (queryOr g g.assignment)) ls es (.symbol ")" :: rest) ∧
      (choice = .tuple es ∧ es.map Expr.bare = es ∧ (∀ q, es ≠ [.query q]) ∨
        ∃ q, es = [.query q] ∧ choice = .query (.nested q) ∧
          Leaves (g.clauses q) q (.symbol ")" :: rest))) :
    Reads (test g e) (kw "IN" :: .symbol "(" :: (ls ++ [.symbol ")"])) (some (.oneOf e choice))
      rest := by
  refine test_reads_choices fun last? => ?_
  have hunnest : Leaves (acceptBoth (·.isKeyword "UNNEST") (·.isSymbol "(")) false
      (.symbol "(" :: (ls ++ .symbol ")" :: rest)) :=
    fun last? => run_acceptBoth_of_not last? _ (.inl rfl)
  obtain ⟨es, hread, ⟨rfl, hbare, hne⟩ | ⟨q, rfl, rfl, hclauses⟩⟩ := h
  · simp only [choices, List.cons_append, List.append_assoc, List.nil_append, run_bind, hunnest _,
      Option.bind_some, Bool.false_eq_true, if_false, run_symbol, Lexeme.isSymbol_symbol,
      beq_self_eq_true, if_true, run_orM, run_pure, hread _, hbare, run_made, run_closed,
      Lexeme.lastOf_cons, Lexeme.lastOf_append, Lexeme.lastOf_nil]
  · simp only [choices, List.cons_append, List.append_assoc, List.nil_append, run_bind, hunnest _,
      Option.bind_some, Bool.false_eq_true, if_false, run_symbol, Lexeme.isSymbol_symbol,
      beq_self_eq_true, if_true, run_orM, run_pure, hread _, List.map_cons, List.map_nil, Expr.bare,
      hclauses _, run_made, run_closed, Lexeme.lastOf_cons, Lexeme.lastOf_append, Lexeme.lastOf_nil]

/-! ## Projected expressions -/

theorem assignment_reads (h : Reads (disjunction g) ls (some e) rest)
    (hrest : rest.head?.any (·.isSymbol ":=") = false) :
    Reads (assignment g) ls (some e) rest := by
  intro last?
  simp [assignment, h _, symbol_leaves _ hrest _]

theorem item_reads (h : Reads (disjunction g) ls (some e) rest) (hf : Follows .item rest) :
    Reads (item g) ls (some e) rest := by
  intro last?
  have hassign := assignment_reads h (hf.head_any (by decide))
  simp [item, hassign _, aliased_leaves hf false (some e) _]

theorem item_reads_aliased {l : Lexeme} {n : Name} (he : e.bare = e) (hn : l.asName? = some n)
    (hl : l.isNoName = false) (h : Reads (disjunction g) ls (some e) (kw "AS" :: l :: rest)) :
    Reads (item g) (ls ++ [kw "AS", l]) (some (.aliased e (.name n))) rest := by
  intro last?
  have hassign := assignment_reads h rfl
  have halias : Reads (aliased g false (some e)) [kw "AS", l] _ rest := aliased_reads he hn hl
  simp only [Reads, List.cons_append, List.nil_append, Lexeme.lastOf_cons, Lexeme.lastOf_nil] at halias
  simp [item, hassign _, halias]

end

end Parser

end QueryBook.Sql
