import QueryBook.Proofs.Sql.Headed.Operand
import QueryBook.Sql.Parser.Expression

/-!
# Expressions are headed

Each level of the grammar leads with an operand of the level below it, or with a sign or a word of
its own. A test keeps its expression in front, and its negation does so too (`negation_headed`).
-/

namespace QueryBook.Sql.Parser

open Std.Do

set_option mvcgen.warning false

variable (g : Grammar)

@[spec] theorem shift_spec : ⦃⌜True⌝⦄ shift ⦃⇓? _ => ⌜True⌝⦄ := answers _

@[spec] theorem escaped_spec {e : Expr} (he : e.Headed) :
    ⦃⌜True⌝⦄ escaped g e ⦃⇓? e => ⌜e.Headed⌝⦄ := by
  mvcgen [escaped]
  all_goals simp [*]

/-- A negated test begins with what is tested, or with `NOT`. -/
theorem negation_headed {e : Expr} (he : e.Headed) : (negation e).Headed := by
  fun_cases negation
  case case3 e _ left _ hbare =>
    have hleft : (Expr.binary .like left _).Headed := Expr.Headed.of_bare (e := e) he hbare
    simpa using hleft
  case case4 e _ left _ hbare =>
    have hleft : (Expr.binary .ilike left _).Headed := Expr.Headed.of_bare (e := e) he hbare
    simpa using hleft
  all_goals simp_all

theorem negated_headed {e : Expr} (he : e.Headed) (isNegated : Bool) :
    (if isNegated then negation e else e).Headed := by
  split
  · exact negation_headed he
  · exact he

variable [g.Headed]

/-! ## Levels below tests -/

@[spec] theorem unary_spec : ⦃⌜True⌝⦄ unary g ⦃⇓? e? => ⌜∀ e ∈ e?, e.Headed⌝⦄ := by
  mvcgen [unary]
  all_goals simp [*]

@[spec] theorem inTimeZone_spec {e? : Option Expr} (he : ∀ e ∈ e?, e.Headed) :
    ⦃⌜True⌝⦄ inTimeZone g e? ⦃⇓? e? => ⌜∀ e ∈ e?, e.Headed⌝⦄ := by
  mvcgen [inTimeZone]
  all_goals simp_all

@[spec] theorem factor_spec : ⦃⌜True⌝⦄ factor g ⦃⇓? e? => ⌜∀ e ∈ e?, e.Headed⌝⦄ := by
  mvcgen [factor]
  all_goals simp_all

@[spec] theorem term_spec : ⦃⌜True⌝⦄ term g ⦃⇓? e? => ⌜∀ e ∈ e?, e.Headed⌝⦄ :=
  chain_spec _ (factor_spec g)

@[spec] theorem bitwise_spec : ⦃⌜True⌝⦄ bitwise g ⦃⇓? e? => ⌜∀ e ∈ e?, e.Headed⌝⦄ := by
  mvcgen [bitwise]
  all_goals simp_all

/-! ## Tests -/

@[spec] theorem null_spec : ⦃⌜True⌝⦄ null g ⦃⇓? e? => ⌜∀ e ∈ e?, e.Headed⌝⦄ := by
  mvcgen [null]
  all_goals simp [*]

@[spec] theorem choices_spec {e : Expr} (he : e.Headed) :
    ⦃⌜True⌝⦄ choices g e ⦃⇓? e => ⌜e.Headed⌝⦄ := by
  have hclauses (q : Query) := answers (g.clauses q)
  mvcgen [choices, hclauses, -Grammar.Headed.clauses]
  all_goals simp [*]

@[spec] theorem bounds_spec {e : Expr} (he : e.Headed) :
    ⦃⌜True⌝⦄ bounds g e ⦃⇓? e => ⌜e.Headed⌝⦄ := by
  mvcgen [bounds]
  all_goals try simp [*]

@[spec] theorem identity_spec {e : Expr} (he : e.Headed) (c : Cursor) :
    ⦃⌜True⌝⦄ identity g e c ⦃⇓? e? => ⌜∀ e ∈ e?, e.Headed⌝⦄ := by
  mvcgen [identity]
  all_goals simp [*]

@[spec] theorem test_spec {e : Expr} (he : e.Headed) :
    ⦃⌜True⌝⦄ test g e ⦃⇓? e? => ⌜∀ e ∈ e?, e.Headed⌝⦄ := by
  mvcgen [test]
  all_goals simp [*]

@[spec] theorem range_spec : ⦃⌜True⌝⦄ range g ⦃⇓? e? => ⌜∀ e ∈ e?, e.Headed⌝⦄ := by
  mvcgen [range]
  case vc7 => simpa using negated_headed (e := .unary .not _) trivial _
  all_goals simp_all [negated_headed]

/-! ## Levels above tests -/

@[spec] theorem comparison_spec : ⦃⌜True⌝⦄ comparison g ⦃⇓? e? => ⌜∀ e ∈ e?, e.Headed⌝⦄ :=
  chain_spec _ (range_spec g)

@[spec] theorem equality_spec : ⦃⌜True⌝⦄ equality g ⦃⇓? e? => ⌜∀ e ∈ e?, e.Headed⌝⦄ :=
  chain_spec _ (comparison_spec g)

@[spec] theorem conjunction_spec : ⦃⌜True⌝⦄ conjunction g ⦃⇓? e? => ⌜∀ e ∈ e?, e.Headed⌝⦄ :=
  chain_spec _ (equality_spec g)

@[spec] theorem disjunction_spec : ⦃⌜True⌝⦄ disjunction g ⦃⇓? e? => ⌜∀ e ∈ e?, e.Headed⌝⦄ :=
  chain_spec _ (conjunction_spec g)

@[spec] theorem assignment_spec : ⦃⌜True⌝⦄ assignment g ⦃⇓? e? => ⌜∀ e ∈ e?, e.Headed⌝⦄ := by
  mvcgen [assignment]
  all_goals simp [*]

@[spec] theorem item_spec : ⦃⌜True⌝⦄ item g ⦃⇓? e? => ⌜∀ e ∈ e?, e.Headed⌝⦄ := by
  mvcgen [item]
  simp

end QueryBook.Sql.Parser
