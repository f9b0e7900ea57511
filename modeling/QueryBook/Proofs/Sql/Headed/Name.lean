import QueryBook.Proofs.Sql.Headed.Core
import QueryBook.Sql.Parser.Name

/-!
# Names are headed
-/

namespace QueryBook.Sql.Parser

open Std.Do

set_option mvcgen.warning false

variable (g : Grammar) [g.Headed]

@[spec] theorem mark_spec : ⦃⌜True⌝⦄ mark ⦃⇓? e? => ⌜∀ e ∈ e?, e.Headed⌝⦄ := by
  mvcgen [mark]
  all_goals simp_all

@[spec] theorem quotedOrMark_spec : ⦃⌜True⌝⦄ quotedOrMark ⦃⇓? e? => ⌜∀ e ∈ e?, e.Headed⌝⦄ := by
  mvcgen [quotedOrMark]
  all_goals simp_all

@[spec] theorem variableName_spec : ⦃⌜True⌝⦄ variableName g ⦃⇓? e => ⌜e.Headed⌝⦄ := by
  mvcgen [variableName]
  all_goals simp_all

@[spec] theorem placeholder_spec : ⦃⌜True⌝⦄ placeholder g ⦃⇓? e? => ⌜∀ e ∈ e?, e.Headed⌝⦄ := by
  mvcgen [placeholder] invariants
  · ⇓? ⟨_, e⟩ => ⌜e.Headed⌝
  all_goals simp_all

@[spec] theorem identifier_spec : ⦃⌜True⌝⦄ identifier g ⦃⇓? e? => ⌜∀ e ∈ e?, e.Headed⌝⦄ := by
  mvcgen [identifier]

@[spec] theorem nameWhere_spec (isCertain : Bool) (isAllowed : String → Bool) :
    ⦃⌜True⌝⦄ nameWhere g isCertain isAllowed ⦃⇓? e? => ⌜∀ e ∈ e?, e.Headed⌝⦄ := by
  mvcgen [nameWhere]
  all_goals simp_all

@[spec] theorem name_spec : ⦃⌜True⌝⦄ name g ⦃⇓? e? => ⌜∀ e ∈ e?, e.Headed⌝⦄ :=
  nameWhere_spec g _ _

@[spec] theorem certainName_spec : ⦃⌜True⌝⦄ certainName g ⦃⇓? e? => ⌜∀ e ∈ e?, e.Headed⌝⦄ :=
  nameWhere_spec g _ _

@[spec] theorem textName_spec : ⦃⌜True⌝⦄ textName ⦃⇓? e? => ⌜∀ e ∈ e?, e.Headed⌝⦄ := by
  mvcgen [textName]
  all_goals simp_all

@[spec] theorem renamed_spec {e : Expr} (he : e.Headed) (label : Expr) (comments : List String) :
    ⦃⌜True⌝⦄ renamed e label comments ⦃⇓? e => ⌜e.Headed⌝⦄ := by
  mvcgen [renamed]
  all_goals simp_all

@[spec] theorem beginsLimit_spec (g : Grammar) : ⦃⌜True⌝⦄ beginsLimit g ⦃⇓? _ => ⌜True⌝⦄ :=
  answers _

/-- An alias stands behind an expression. -/
@[spec] theorem aliased_spec (isExplicit : Bool) {e? : Option Expr} (he : ∀ e ∈ e?, e.Headed) :
    ⦃⌜True⌝⦄ aliased g isExplicit e? ⦃⇓? e? => ⌜∀ e ∈ e?, e.Headed⌝⦄ := by
  mvcgen [aliased]
  all_goals simp_all

end QueryBook.Sql.Parser
