import Mathlib
import QueryBook.Proofs.Sql.Headed.Printed
import QueryBook.Sql.Parser.Core

/-!
# Triples of parsers

A triple says of what a parser answers, wherever it starts (`triple_iff`); its failures are no
answers. The readers of words and punctuation answer nothing about expressions, so their triples
say nothing, and those of the repetitions and of the makers of expressions pass on that what they
are given is headed.
-/

namespace QueryBook.Sql.Parser

open Std.Do

set_option mvcgen.warning false

theorem triple_iff {α : Type} {p : Parser α} {P : α → Prop} :
    (⦃⌜True⌝⦄ p ⦃⇓? a => ⌜P a⌝⦄) ↔ ∀ c r, p c = some r → P r.1 := by
  constructor
  · intro h c r hr
    have hp : (wp⟦p c⟧ (fun r => ⌜P r.1⌝, ExceptConds.true)).down := h c trivial
    rw [hr] at hp
    exact hp
  · intro h c _
    -- the postcondition allows every failure, so that only answers are left
    change (wp⟦p c⟧ (fun r => ⌜P r.1⌝, ExceptConds.true)).down
    cases hr : p c with
    | none => trivial
    | some r => exact h c r hr

/-- Nothing is said of what a parser answers. -/
theorem answers {α : Type} (p : Parser α) : ⦃⌜True⌝⦄ p ⦃⇓? _ => ⌜True⌝⦄ :=
  triple_iff.2 fun _ _ _ => trivial

@[spec] theorem discard_spec {α : Type} (p : Parser α) :
    ⦃⌜True⌝⦄ discard p ⦃⇓? _ => ⌜True⌝⦄ := answers _

@[spec] theorem failure_spec {α : Type} :
    ⦃⌜True⌝⦄ (failure : Parser α) ⦃⇓? _ => ⌜False⌝⦄ :=
  triple_iff.2 fun _ _ h => nomatch h

attribute [spec] required

/-! ## Moving, words and punctuation -/

section

variable (c : Cursor) (is is' : Lexeme → Bool) (kind : String) (words : List String)

@[spec] theorem ahead?_spec : ⦃⌜True⌝⦄ ahead? ⦃⇓? _ => ⌜True⌝⦄ := answers _

@[spec] theorem second?_spec : ⦃⌜True⌝⦄ second? ⦃⇓? _ => ⌜True⌝⦄ := answers _

@[spec] theorem last?_spec : ⦃⌜True⌝⦄ last? ⦃⇓? _ => ⌜True⌝⦄ := answers _

@[spec] theorem lastContent_spec : ⦃⌜True⌝⦄ lastContent ⦃⇓? _ => ⌜True⌝⦄ := answers _

@[spec] theorem advance_spec : ⦃⌜True⌝⦄ advance ⦃⇓? _ => ⌜True⌝⦄ := answers _

@[spec] theorem retreat_spec : ⦃⌜True⌝⦄ retreat c ⦃⇓? _ => ⌜True⌝⦄ := answers _

@[spec] theorem pending_spec : ⦃⌜True⌝⦄ pending ⦃⇓? _ => ⌜True⌝⦄ := answers _

@[spec] theorem taken_spec : ⦃⌜True⌝⦄ taken ⦃⇓? _ => ⌜True⌝⦄ := answers _

@[spec] theorem sees_spec : ⦃⌜True⌝⦄ sees is ⦃⇓? _ => ⌜True⌝⦄ := answers _

@[spec] theorem accept_spec : ⦃⌜True⌝⦄ accept is ⦃⇓? _ => ⌜True⌝⦄ := answers _

@[spec] theorem acceptBoth_spec : ⦃⌜True⌝⦄ acceptBoth is is' ⦃⇓? _ => ⌜True⌝⦄ := answers _

@[spec] theorem keyword_spec : ⦃⌜True⌝⦄ keyword kind ⦃⇓? _ => ⌜True⌝⦄ := answers _

@[spec] theorem symbol_spec : ⦃⌜True⌝⦄ symbol kind ⦃⇓? _ => ⌜True⌝⦄ := answers _

@[spec] theorem expectSymbol_spec : ⦃⌜True⌝⦄ expectSymbol kind ⦃⇓? _ => ⌜True⌝⦄ := answers _

@[spec] theorem keywordOf_spec : ⦃⌜True⌝⦄ keywordOf words ⦃⇓? _ => ⌜True⌝⦄ := answers _

@[spec] theorem reads_spec : ⦃⌜True⌝⦄ reads words ⦃⇓? _ => ⌜True⌝⦄ := answers _

@[spec] theorem readsOf_spec : ⦃⌜True⌝⦄ readsOf words ⦃⇓? _ => ⌜True⌝⦄ := answers _

@[spec] theorem orM_spec (p q : Parser Bool) : ⦃⌜True⌝⦄ (p <||> q) ⦃⇓? _ => ⌜True⌝⦄ := answers _

@[spec] theorem andM_spec (p q : Parser Bool) : ⦃⌜True⌝⦄ (p <&&> q) ⦃⇓? _ => ⌜True⌝⦄ := answers _

@[spec] theorem notM_spec (p : Parser Bool) : ⦃⌜True⌝⦄ notM p ⦃⇓? _ => ⌜True⌝⦄ := answers _

end

/-! ## Repetition -/

section

variable {α : Type} {P : α → Prop} {step : α → Parser (Option α)}

theorem repeatUpTo_spec (hstep : ∀ a, P a → ⦃⌜True⌝⦄ step a ⦃⇓? a? => ⌜∀ b ∈ a?, P b⌝⦄) (n : Nat)
    {a : α} (ha : P a) : ⦃⌜True⌝⦄ repeatUpTo step n a ⦃⇓? b => ⌜P b⌝⦄ := by
  induction n generalizing a with
  | zero =>
    mvcgen [repeatUpTo]
    simp
  | succ n ih =>
    mvcgen [repeatUpTo, hstep, ih]
    all_goals simp_all

/-- What every step keeps, the repetition keeps. -/
theorem iterate_spec (hstep : ∀ a, P a → ⦃⌜True⌝⦄ step a ⦃⇓? a? => ⌜∀ b ∈ a?, P b⌝⦄) {a : α}
    (ha : P a) : ⦃⌜True⌝⦄ iterate step a ⦃⇓? b => ⌜P b⌝⦄ := by
  have hrepeat := repeatUpTo_spec hstep
  mvcgen [iterate, hrepeat]

end

section

variable {p : Parser (Option Expr)}

@[spec] theorem iterateExpr_spec {step : Expr → Parser (Option Expr)}
    (hstep : ∀ e, e.Headed → ⦃⌜True⌝⦄ step e ⦃⇓? e? => ⌜∀ e ∈ e?, e.Headed⌝⦄) {e : Expr}
    (he : e.Headed) : ⦃⌜True⌝⦄ iterate step e ⦃⇓? e => ⌜e.Headed⌝⦄ :=
  iterate_spec hstep he

@[spec] theorem iterateOption_spec {step : Option Expr → Parser (Option (Option Expr))}
    (hstep : ∀ e?, (∀ e ∈ e?, e.Headed) →
      ⦃⌜True⌝⦄ step e? ⦃⇓? r => ⌜∀ e? ∈ r, ∀ e ∈ e?, e.Headed⌝⦄)
    {e? : Option Expr} (he : ∀ e ∈ e?, e.Headed) :
    ⦃⌜True⌝⦄ iterate step e? ⦃⇓? e? => ⌜∀ e ∈ e?, e.Headed⌝⦄ :=
  iterate_spec hstep he

theorem separatedUpTo_spec (hp : ⦃⌜True⌝⦄ p ⦃⇓? e? => ⌜∀ e ∈ e?, e.Headed⌝⦄) (n : Nat) :
    ⦃⌜True⌝⦄ separatedUpTo p Expr.annotated n ⦃⇓? es => ⌜∀ e ∈ es, e.Headed⌝⦄ := by
  induction n with
  | zero =>
    mvcgen [separatedUpTo]
    simp
  | succ n ih =>
    mvcgen [separatedUpTo, hp, ih]
    all_goals simp_all

/-- The elements of a list are headed if each is read as such. -/
theorem separated_headed (hp : ⦃⌜True⌝⦄ p ⦃⇓? e? => ⌜∀ e ∈ e?, e.Headed⌝⦄) :
    ⦃⌜True⌝⦄ separated p ⦃⇓? es => ⌜∀ e ∈ es, e.Headed⌝⦄ := by
  have hlist := separatedUpTo_spec hp
  mvcgen [separated, hlist]

/-! Of most lists it does not matter what they hold. -/

@[spec] theorem separated_spec : ⦃⌜True⌝⦄ separated p ⦃⇓? _ => ⌜True⌝⦄ := answers _

@[spec] theorem someOf_spec {α : Type} (p : Parser (List α)) :
    ⦃⌜True⌝⦄ someOf p ⦃⇓? _ => ⌜True⌝⦄ := answers _

@[spec] theorem many_spec {α : Type} (p : Parser (Option α)) :
    ⦃⌜True⌝⦄ many p ⦃⇓? _ => ⌜True⌝⦄ := answers _

end

/-! ## Expressions -/

section

variable {e : Expr}

@[spec] theorem made_spec (he : e.Headed) : ⦃⌜True⌝⦄ made e ⦃⇓? e => ⌜e.Headed⌝⦄ := by
  mvcgen [made]
  simp_all

@[spec] theorem madeWith_spec (comments : List String) (he : e.Headed) :
    ⦃⌜True⌝⦄ madeWith comments e ⦃⇓? e => ⌜e.Headed⌝⦄ := by
  mvcgen [madeWith]
  all_goals simp_all

@[spec] theorem closed_spec (he : e.Headed) : ⦃⌜True⌝⦄ closed e ⦃⇓? e => ⌜e.Headed⌝⦄ := by
  mvcgen [closed]
  all_goals simp_all

/-- Operators between operands are led by the first operand. -/
@[spec] theorem chain_spec (op? : Lexeme → Option BinaryOp) {operand : Parser (Option Expr)}
    (hoperand : ⦃⌜True⌝⦄ operand ⦃⇓? e? => ⌜∀ e ∈ e?, e.Headed⌝⦄) :
    ⦃⌜True⌝⦄ chain op? operand ⦃⇓? e? => ⌜∀ e ∈ e?, e.Headed⌝⦄ := by
  mvcgen [chain, hoperand]
  all_goals simp_all

end

end QueryBook.Sql.Parser

namespace QueryBook.Sql

open Std.Do

/-- The readers of a grammar answer headed expressions, and they read further from headed queries to
headed ones. -/
class Grammar.Headed (g : Grammar) : Prop where
  item : ⦃⌜True⌝⦄ g.item ⦃⇓? e? => ⌜∀ e ∈ e?, e.Headed⌝⦄
  assignment : ⦃⌜True⌝⦄ g.assignment ⦃⇓? e? => ⌜∀ e ∈ e?, e.Headed⌝⦄
  disjunction : ⦃⌜True⌝⦄ g.disjunction ⦃⇓? e? => ⌜∀ e ∈ e?, e.Headed⌝⦄
  equality : ⦃⌜True⌝⦄ g.equality ⦃⇓? e? => ⌜∀ e ∈ e?, e.Headed⌝⦄
  bitwise : ⦃⌜True⌝⦄ g.bitwise ⦃⇓? e? => ⌜∀ e ∈ e?, e.Headed⌝⦄
  term : ⦃⌜True⌝⦄ g.term ⦃⇓? e? => ⌜∀ e ∈ e?, e.Headed⌝⦄
  factor : ⦃⌜True⌝⦄ g.factor ⦃⇓? e? => ⌜∀ e ∈ e?, e.Headed⌝⦄
  unary : ⦃⌜True⌝⦄ g.unary ⦃⇓? e? => ⌜∀ e ∈ e?, e.Headed⌝⦄
  column : ⦃⌜True⌝⦄ g.column ⦃⇓? e? => ⌜∀ e ∈ e?, e.Headed⌝⦄
  primary : ⦃⌜True⌝⦄ g.primary ⦃⇓? e? => ⌜∀ e ∈ e?, e.Headed⌝⦄
  query (place : QueryPlace) : ⦃⌜True⌝⦄ g.query place ⦃⇓? q? => ⌜∀ q ∈ q?, q.Headed⌝⦄
  setOperations (q : Query) (hq : q.Headed) : ⦃⌜True⌝⦄ g.setOperations q ⦃⇓? q => ⌜q.Headed⌝⦄
  clauses (q : Query) (hq : q.Headed) : ⦃⌜True⌝⦄ g.clauses q ⦃⇓? q => ⌜q.Headed⌝⦄

attribute [spec] Grammar.Headed.item Grammar.Headed.assignment Grammar.Headed.disjunction
  Grammar.Headed.equality Grammar.Headed.bitwise Grammar.Headed.term Grammar.Headed.factor
  Grammar.Headed.unary Grammar.Headed.column Grammar.Headed.primary Grammar.Headed.query
  Grammar.Headed.setOperations Grammar.Headed.clauses

end QueryBook.Sql
