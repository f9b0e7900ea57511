import QueryBook.Proofs.Sql.Headed.Call
import QueryBook.Proofs.Sql.Headed.Type
import QueryBook.Sql.Parser.Operand

/-!
# Operands are headed

An operand begins with a literal, a name, a word or a parenthesis, and what may stand directly
behind it keeps it in front.
-/

namespace QueryBook.Sql.Parser

open Std.Do

set_option mvcgen.warning false

section

variable (g : Grammar)

/-! ## Literals and parentheses -/

@[spec] theorem starEdit_spec (written : List String) (printed : String) :
    ⦃⌜True⌝⦄ starEdit g written printed ⦃⇓? _ => ⌜True⌝⦄ := answers _

@[spec] theorem texts_spec {first : Expr} (hfirst : first.Headed) :
    ⦃⌜True⌝⦄ texts first ⦃⇓? e => ⌜e.Headed⌝⦄ := by
  mvcgen [texts]
  all_goals simp [*]

@[spec] theorem star_spec : ⦃⌜True⌝⦄ star g ⦃⇓? e => ⌜e.Headed⌝⦄ := by
  mvcgen [star]
  all_goals simp [*]

@[spec] theorem parenthesized_spec : ⦃⌜True⌝⦄ parenthesized g ⦃⇓? e => ⌜e.Headed⌝⦄ := by
  have hquery (place : QueryPlace) := answers (g.query place)
  have hclauses (q : Query) := answers (g.clauses q)
  have hoperations (q : Query) := answers (g.setOperations q)
  unfold parenthesized
  dsimp only
  mvcgen [hquery, hclauses, hoperations, -Grammar.Headed.query, -Grammar.Headed.clauses,
    -Grammar.Headed.setOperations]
  all_goals simp

@[spec] theorem parentheses_spec : ⦃⌜True⌝⦄ parentheses g ⦃⇓? e? => ⌜∀ e ∈ e?, e.Headed⌝⦄ := by
  mvcgen [parentheses]
  all_goals simp [*]

@[spec] theorem primary_spec : ⦃⌜True⌝⦄ primary g ⦃⇓? e? => ⌜∀ e ∈ e?, e.Headed⌝⦄ := by
  mvcgen [primary]
  all_goals simp [*]

/-! ## Fields and indices -/

@[spec] theorem member_spec : ⦃⌜True⌝⦄ member g ⦃⇓? _ => ⌜True⌝⦄ := answers _

/-- Brackets without an expression before them hold the elements of an array. -/
@[spec] theorem brackets_spec {e? : Option Expr} (he : ∀ e ∈ e?, e.Headed) :
    ⦃⌜True⌝⦄ brackets g e? ⦃⇓? e? => ⌜∀ e ∈ e?, e.Headed⌝⦄ := by
  mvcgen [brackets]
  case vc3.he elements _ =>
    dsimp only [elements]
    split
    · trivial
    · rename_i e hbefore
      have he : e.Headed := hbefore e rfl
      split <;> simp [he]
  case vc6 => exact fun _ => he
  all_goals simp [*]

@[spec] theorem fieldOf_spec {owner : Expr} (howner : owner.Headed) (member : Expr) :
    ⦃⌜True⌝⦄ fieldOf owner member ⦃⇓? e => ⌜e.Headed⌝⦄ := by
  have howner' : (if owner.isColumn then owner.bare else owner).Headed := by
    split
    · simpa using howner
    · exact howner
  mvcgen [fieldOf]
  all_goals simp [*]

theorem lookup_headed (mark : String) {e : Expr} (he : e.Headed) (key : Expr) :
    (lookup mark e key).Headed := by
  unfold lookup
  split <;> simp [he]

@[spec] theorem suffixes_spec {e : Expr} (he : e.Headed) :
    ⦃⌜True⌝⦄ suffixes g e ⦃⇓? e => ⌜e.Headed⌝⦄ := by
  mvcgen [suffixes]
  all_goals simp [*]

variable [g.Headed]

@[spec] theorem reference_spec : ⦃⌜True⌝⦄ reference g ⦃⇓? e? => ⌜∀ e ∈ e?, e.Headed⌝⦄ := by
  mvcgen [reference]
  all_goals simp [*]

@[spec] theorem columnOps_spec {e : Expr} (he : e.Headed) :
    ⦃⌜True⌝⦄ columnOps g e ⦃⇓? e => ⌜e.Headed⌝⦄ := by
  mvcgen [columnOps]
  all_goals simp [*, lookup_headed]

@[spec] theorem column_spec : ⦃⌜True⌝⦄ column g ⦃⇓? e? => ⌜∀ e ∈ e?, e.Headed⌝⦄ := by
  mvcgen [column]
  all_goals simp [*]

/-! ## Intervals and typed strings -/

@[spec] theorem intervalUnit_spec (g : Grammar) :
    ⦃⌜True⌝⦄ intervalUnit g ⦃⇓? _ => ⌜True⌝⦄ := answers _

@[spec] theorem intervalBody_spec :
    ⦃⌜True⌝⦄ intervalBody g ⦃⇓? e? => ⌜∀ e ∈ e?, e.Headed⌝⦄ := by
  mvcgen [intervalBody]
  all_goals simp [*]

@[spec] theorem intervals_spec : ⦃⌜True⌝⦄ intervals g ⦃⇓? e? => ⌜∀ e ∈ e?, e.Headed⌝⦄ := by
  have hmore (step : List Expr → Parser (Option (List Expr))) (more : List Expr) :=
    answers (iterate step more)
  mvcgen [intervals, hmore]
  all_goals simp [*]

@[spec] theorem interval_spec : ⦃⌜True⌝⦄ interval g ⦃⇓? e? => ⌜∀ e ∈ e?, e.Headed⌝⦄ := by
  mvcgen [interval]
  all_goals simp [*]

@[spec] theorem typed_spec (t e : Expr) : ⦃⌜True⌝⦄ typed t e ⦃⇓? e => ⌜e.Headed⌝⦄ := by
  mvcgen [typed]
  all_goals simp [*]

@[spec] theorem typedLiteral_spec :
    ⦃⌜True⌝⦄ typedLiteral g ⦃⇓? e? => ⌜∀ e ∈ e?, e.Headed⌝⦄ := by
  mvcgen [typedLiteral]
  all_goals simp [*]

@[spec] theorem operand_spec : ⦃⌜True⌝⦄ operand g ⦃⇓? e? => ⌜∀ e ∈ e?, e.Headed⌝⦄ := by
  mvcgen [operand]
  all_goals simp [*]

end

end QueryBook.Sql.Parser
