import QueryBook.Proofs.Sql.Covered.Outline
import QueryBook.Proofs.Sql.Headed.Expression
import QueryBook.Sql.Parser.Query

/-!
# Queries are headed

A query is a select, listed rows, something in parentheses, or one of these with more behind it. What
has named queries in front of it begins with them (`withNamed_headed`), whatever it is.
-/

namespace QueryBook.Sql.Parser

open Std.Do

set_option mvcgen.warning false

/-! ## Queries with something behind them -/

theorem inside_headed {f : Query → Query} (hf : ∀ q, q.Headed → (f q).Headed) {q : Query}
    (hq : q.Headed) : (inside f q).Headed := by
  cases q with
  | commented q comments => exact hf q hq
  | _ => exact hf _ hq

theorem withClauses_headed (c : Clauses) : ∀ {q : Query}, q.Headed → (withClauses c q).Headed
  | .commented q _, hq => withClauses_headed c (q := q) hq
  | .refined _ _, hq => hq
  | .select _, _ | .values _, _ | .nested _, _ | .with .., _ => trivial
  | .expr _, hq | .combined .., hq | .aliased .., hq => hq

theorem withEnd_headed {q : Query} (hq : q.Headed) : (withEnd q).Headed := by
  unfold withEnd
  split
  · dsimp only
    split <;> exact hq
  · exact hq

/-- A query with named queries in front of it begins with them. -/
theorem withNamed_headed {w : With Expr Query} {q q' : Query} (h : withNamed w q = some q') :
    q'.Headed := by
  obtain ⟨s, rfl⟩ | ⟨q₀, rfl⟩ := withNamed_cases h <;> trivial

theorem selectAll_headed (c : Clause Query) : (selectAll c).Headed := trivial

theorem namedRows_headed (rows : List Expr) (label? : Option Expr) :
    (namedRows rows label?).Headed := by
  cases label? <;> trivial

section

variable (g : Grammar)

/-! ## Readers of what never leads -/

@[spec] theorem setWords_spec : ⦃⌜True⌝⦄ setWords ⦃⇓? _ => ⌜True⌝⦄ := answers _

@[spec] theorem joins_spec : ⦃⌜True⌝⦄ joins g ⦃⇓? _ => ⌜True⌝⦄ := answers _

@[spec] theorem row_spec : ⦃⌜True⌝⦄ row g ⦃⇓? _ => ⌜True⌝⦄ := answers _

@[spec] theorem tableAlias_spec : ⦃⌜True⌝⦄ tableAlias g ⦃⇓? _ => ⌜True⌝⦄ := answers _

@[spec] theorem sample_spec : ⦃⌜True⌝⦄ sample g ⦃⇓? _ => ⌜True⌝⦄ := answers _

@[spec] theorem withTables_spec : ⦃⌜True⌝⦄ withTables g ⦃⇓? _ => ⌜True⌝⦄ := answers _

@[spec] theorem leadingSource_spec : ⦃⌜True⌝⦄ leadingSource g ⦃⇓? _ => ⌜True⌝⦄ := answers _

@[spec] theorem statement_spec : ⦃⌜True⌝⦄ g.statement ⦃⇓? _ => ⌜True⌝⦄ := answers _

@[spec] theorem iterateQuery_spec {step : Query → Parser (Option Query)}
    (hstep : ∀ q, q.Headed → ⦃⌜True⌝⦄ step q ⦃⇓? q? => ⌜∀ q ∈ q?, q.Headed⌝⦄) {q : Query}
    (hq : q.Headed) : ⦃⌜True⌝⦄ iterate step q ⦃⇓? q => ⌜q.Headed⌝⦄ :=
  iterate_spec hstep hq

/-! ## Queries -/

@[spec] theorem clauses_spec {q : Query} (hq : q.Headed) :
    ⦃⌜True⌝⦄ clauses g q ⦃⇓? q => ⌜q.Headed⌝⦄ := by
  have hlaterals := answers (many (lateral g))
  have hnext (c : Clauses) := answers (iterate (nextClause g) c)
  mvcgen [clauses, hlaterals, hnext]
  all_goals simp [*, withClauses_headed]

@[spec] theorem setOperations_spec {q : Query} (hq : q.Headed) :
    ⦃⌜True⌝⦄ setOperations g q ⦃⇓? q => ⌜q.Headed⌝⦄ := by
  have hright (place : QueryPlace) := answers (g.query place)
  mvcgen [setOperations, hright, -Grammar.Headed.query]
  all_goals simp [*, withEnd_headed]

@[spec] theorem values_spec : ⦃⌜True⌝⦄ values g ⦃⇓? q? => ⌜∀ q ∈ q?, q.Headed⌝⦄ := by
  mvcgen [values]
  all_goals simp [*, namedRows_headed]

@[spec] theorem named_spec {q : Query} (hq : q.Headed) :
    ⦃⌜True⌝⦄ named g q ⦃⇓? q => ⌜q.Headed⌝⦄ := by
  mvcgen [named]
  exact inside_headed (by exact fun _ h => h) hq

@[spec] theorem sampled_spec {q : Query} (hq : q.Headed) :
    ⦃⌜True⌝⦄ sampled g q ⦃⇓? q => ⌜q.Headed⌝⦄ := by
  mvcgen [sampled]
  exact inside_headed (by exact fun _ h => h) hq

variable (tokens : String → Option (List Token))

@[spec] theorem select_spec (first? : Option (Clause Query)) :
    ⦃⌜True⌝⦄ select g tokens first? ⦃⇓? _ => ⌜True⌝⦄ := answers _

@[spec] theorem inner_spec (isSource : Bool) :
    ⦃⌜True⌝⦄ inner g tokens isSource ⦃⇓? _ => ⌜True⌝⦄ := answers _

/-- A query in parentheses begins with them. -/
@[spec] theorem nested_spec (isSource : Bool) :
    ⦃⌜True⌝⦄ nested g tokens isSource ⦃⇓? q => ⌜q.Headed⌝⦄ := by
  mvcgen [nested]
  all_goals simp [*]

@[spec] theorem readQuery_spec (place : QueryPlace) :
    ⦃⌜True⌝⦄ query g tokens place ⦃⇓? q? => ⌜∀ q ∈ q?, q.Headed⌝⦄ := by
  mvcgen [query]
  case vc1 hnamed => simpa using withNamed_headed hnamed
  all_goals simp [*, selectAll_headed]

end

end QueryBook.Sql.Parser
