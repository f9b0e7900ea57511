import QueryBook.Proofs.Sql.Reader.Expression

/-!
# Where no expression begins

The parser looks for an expression at some places where none can stand: behind the opening
parenthesis of a call without arguments, in front of the branches of a case without a subject, and
at the first word of a statement. At these lexemes, the barriers, every level finds nothing.
-/

namespace QueryBook.Sql

open Lexeme (kw lastOf)

/-- Lexemes that no expression begins with. -/
def Lexeme.barriers : List Lexeme :=
  [.symbol ")", kw "SELECT", kw "WITH", kw "WHEN"]

namespace Parser

variable {g : Grammar} {l : Lexeme} {rest : List Lexeme}

section

variable (hl : l ∈ Lexeme.barriers)

include hl

/-- A question about the lexeme ahead, answered for all barriers. -/
theorem barrier_any {is : Lexeme → Bool} (h : ∀ m ∈ Lexeme.barriers, is m = false) :
    (l :: rest).head?.any is = false :=
  h l hl

theorem barrier {is : Lexeme → Bool} (h : ∀ m ∈ Lexeme.barriers, is m = false) : is l = false :=
  h l hl

theorem column_leaves : Leaves (column g) none (l :: rest) := by
  have hprimary : Leaves (primary g) none (l :: rest) := primary_leaves (barrier_any hl (by decide))
  have hfunction : Leaves (function g true) none (l :: rest) :=
    function_leaves (barrier_any hl (by decide)) (barrier_any hl (by decide))
      (.inr (barrier_any hl (by decide)))
  have hname : Leaves (name g) none (l :: rest) := nameWhere_leaves (barrier_any hl (by decide))
  have hvalues : l.isKeyword "VALUES" = false :=
      barrier hl (by decide)
  have hbrackets : Leaves (brackets g none) none (l :: rest) :=
    brackets_leaves (barrier_any hl (by decide)) none
  have hreference : Leaves (reference g) none (l :: rest) := fun last? => by
    simp [reference, hprimary last?, hfunction last?, hname last?, hvalues]
  intro last?
  simp [column, hreference last?, hbrackets last?]

theorem unary_leaves : Leaves (unary g) none (l :: rest) := by
  intro last?
  rw [unary_eq_operand (barrier_any hl (by decide)), operand_eq_column (barrier_any hl (by decide))]
  exact column_leaves hl last?

/-! ### Levels of operators -/

omit hl in
/-- Where no phrase begins and no operator follows, there is no phrase with operators. -/
theorem repeated_leaves {p : Parser (Option Expr)} {step : Option Expr → Parser (Option (Option Expr))}
    (hp : Leaves p none (l :: rest)) (hs : Leaves (step none) none (l :: rest)) :
    Leaves (p >>= iterate step) none (l :: rest) := fun last? => by
  rw [run_bind, hp last?, Option.bind_some, iterate_leaves hs last?]

theorem chain_leaves {op? : Lexeme → Option BinaryOp} {p : Parser (Option Expr)}
    (hp : Leaves p none (l :: rest)) (h : ∀ m ∈ Lexeme.barriers, op? m = none) :
    Leaves (chain op? p) none (l :: rest) := by
  rw [chain_eq]
  exact repeated_leaves hp (chainStep_leaves (h l hl))

theorem factor_leaves : Leaves (factor g) none (l :: rest) := by
  have hzone : Leaves (inTimeZone g none) none (l :: rest) :=
    iterate_leaves fun last? => by
      rw [run_bind, reads_leaves (barrier_any hl (by decide)) last?]
      rfl
  have hdiv : l.isKeyword "DIV" = false := barrier hl (by decide)
  have hop : productOp? l = none := (by decide : ∀ m ∈ Lexeme.barriers, productOp? m = none) l hl
  rw [factor_eq]
  refine repeated_leaves (fun last? => ?_) fun last? => ?_
  · rw [run_bind, unary_leaves hl last?, Option.bind_some, hzone last?]
  · simp [factorStep, hdiv, hop]

theorem term_leaves : Leaves (term g) none (l :: rest) :=
  chain_leaves hl (factor_leaves hl) (by decide)

theorem shift_leaves_barrier : Leaves shift none (l :: rest) := by
  have hsign (mark : String) (hm : mark = "<" ∨ mark = ">") :
      Leaves (acceptBoth (·.isSymbol mark) (·.isSymbol mark)) false (l :: rest) := fun last? =>
    run_acceptBoth_of_not _ _ (.inl (by
      rcases hm with rfl | rfl <;> exact barrier_any hl (by decide)))
  intro last?
  simp [shift, hsign "<" (.inl rfl) last?, hsign ">" (.inr rfl) last?]

theorem bitwise_leaves : Leaves (bitwise g) none (l :: rest) := by
  refine repeated_leaves (term_leaves hl) fun last? => ?_
  have hcoalesce : l.isSymbol "??" = false := barrier hl (by decide)
  have hop : bitOp? g.dialect l = none := by
    rw [bitOp?_plain]
    revert l
    split <;> decide
  simp [hcoalesce, hop, shift_leaves_barrier hl last?]

theorem range_leaves : Leaves (range g) none (l :: rest) := by
  refine repeated_leaves (bitwise_leaves hl) fun last? => ?_
  have hnot : l.isKeyword "NOT" = false := barrier hl (by decide)
  simp [hnot]

theorem comparison_leaves : Leaves (comparison g) none (l :: rest) :=
  chain_leaves hl (range_leaves hl) (by decide)

theorem equality_leaves : Leaves (equality g) none (l :: rest) :=
  chain_leaves hl (comparison_leaves hl) (by decide)

theorem conjunction_leaves : Leaves (conjunction g) none (l :: rest) := by
  refine chain_leaves hl (equality_leaves hl) fun m hm => ?_
  rw [conjunctionOp?_plain]
  revert m
  split <;> decide

theorem disjunction_leaves : Leaves (disjunction g) none (l :: rest) := by
  refine chain_leaves hl (conjunction_leaves hl) fun m hm => ?_
  rw [disjunctionOp?_plain]
  revert m
  split <;> decide

/-- No phrase of a level begins, and no operator of the level follows. -/
theorem reader_leaves {level : Level} (hlevel : level ∉ Level.ends) :
    Leaves (reader g level) none (l :: rest) := by
  cases level with
  | operand => exact unary_leaves hl
  | factor => exact factor_leaves hl
  | term => exact term_leaves hl
  | bitwise => exact bitwise_leaves hl
  | range => exact range_leaves hl
  | comparison => exact comparison_leaves hl
  | equality | negation => exact equality_leaves hl
  | conjunction => exact conjunction_leaves hl
  | disjunction => exact disjunction_leaves hl
  | _ => simp [Level.ends] at hlevel

theorem assignment_leaves (htame : ∀ m ∈ rest, m.isTame = true) :
    Leaves (assignment g) none (l :: rest) := by
  intro last?
  have hreader : Leaves (reader g .disjunction) none (l :: rest) := reader_leaves hl (by decide)
  have hdisjunction : Leaves (disjunction g) none (l :: rest) := hreader
  have hassign : l.isSymbol ":=" = false :=
      barrier hl (by decide)
  have hsecond : rest[0]?.any (Lexeme.isSymbol ":=" ·) = false := by
    cases rest with
    | nil => rfl
    | cons m rest => simpa using Lexeme.not_isSymbol_of_isTame (htame m (by simp)) (by simp)
  simp only [assignment, hdisjunction last?, hsecond, hassign, run_bind, run_pure, run_ite,
    run_failure, run_ahead?, run_second?, run_pending, run_symbol, Option.bind_some,
    List.head?_cons, List.getElem?_cons_succ, if_false, Bool.false_eq_true, Bool.false_and]

theorem item_leaves (htame : ∀ m ∈ rest, m.isTame = true) :
    Leaves (item g) none (l :: rest) := by
  intro last?
  have hbegins : Leaves (beginsLimit g) false (l :: rest) := fun last? => by
    rw [beginsLimit_leaves (barrier_any hl (by decide)) last?, barrier_any hl (by decide)]
  have has : l.isKeyword "AS" = false :=
      barrier hl (by decide)
  have hparen : l.isSymbol "(" = false :=
      barrier hl (by decide)
  have hname : Leaves (nameWhere g false Keyword.isName) none (l :: rest) :=
    nameWhere_leaves (barrier_any hl (by decide))
  have htext : Leaves textName none (l :: rest) := textName_leaves fun s heq => by
    have hnot : ∀ m ∈ Lexeme.barriers, m ≠ .text m.content := by decide
    cases heq
    exact hnot _ hl rfl
  simp only [item, assignment_leaves hl htame last?, aliased, hbegins last?, has, hparen,
    hname last?, htext last?, run_bind, run_pure, run_ite, run_failure, run_pending, run_keyword,
    run_symbol, Option.bind_some, Option.bind_none, if_false, ite_self, Bool.false_eq_true,
    Bool.false_and]

end

end Parser

end QueryBook.Sql
