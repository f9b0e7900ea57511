import QueryBook.Proofs.Sql.Headed.Name
import QueryBook.Sql.Parser.Type

/-!
# Types are headed

A type begins with its word or its name.
-/

namespace QueryBook.Sql.Parser

open Std.Do

set_option mvcgen.warning false

variable (g : Grammar)

@[spec] theorem headType_spec (head : TypeHead) (arguments : List Expr) :
    ⦃⌜True⌝⦄ headType g head arguments ⦃⇓? e => ⌜e.Headed⌝⦄ := by
  have hword := answers (capitalWord g)
  mvcgen [headType, hword]
  all_goals simp

theorem foldl_list_headed {t : Expr} (ht : t.Headed) (lists : List Unit) :
    (lists.foldl (fun t _ => Expr.type "LIST" [t] true) t).Headed := by
  induction lists generalizing t with
  | nil => exact ht
  | cons _ lists ih => exact ih trivial

/-- Brackets behind a type make it the argument of another type. -/
@[spec] theorem typeArrays_spec {t : Expr} (ht : t.Headed) :
    ⦃⌜True⌝⦄ typeArrays g t ⦃⇓? e => ⌜e.Headed⌝⦄ := by
  have hlists := foldl_list_headed ht
  have hlist := many_spec (α := Unit)
  -- of the triples of this repetition only the types matter
  have harrays := @iterate_spec (Expr × Bool × Bool) (fun r => r.1.Headed)
  mvcgen [typeArrays, hlist, harrays]
  case vc8.ha => exact hlists _
  all_goals simp [*]

@[spec] theorem readType_spec (isOperand : Bool) :
    ⦃⌜True⌝⦄ type g isOperand ⦃⇓? e? => ⌜∀ e ∈ e?, e.Headed⌝⦄ := by
  have hhead := answers (typeHead g isOperand)
  have hsizes (head : TypeHead) := answers (typeSizes g head isOperand)
  have harguments (head : TypeHead) := answers (typeArguments g head isOperand)
  have hzone (kind : String) := answers (timeZone kind)
  mvcgen [type, hhead, hsizes, harguments, hzone]
  all_goals simp [*]

end QueryBook.Sql.Parser
