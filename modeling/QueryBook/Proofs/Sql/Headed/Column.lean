import QueryBook.Proofs.Sql.Headed.Query
import QueryBook.Sql.Column

/-!
# Columns are headed

The readers of every depth answer headed expressions (`Grammar.headed_ofDepth`), by induction on the
depth, and so does the reader of columns (`columnOf_headed`): what is no expression is a path, which
begins with a name.
-/

namespace QueryBook.Sql

open Std.Do

theorem Grammar.headed_nothing (d : Dialect) : (Grammar.nothing d).Headed := by
  have hfailure {α : Type} {P : α → Prop} :
      ⦃⌜True⌝⦄ (failure : Parser α) ⦃⇓? a => ⌜P a⌝⦄ :=
    Parser.triple_iff.2 fun _ _ h => nomatch h
  constructor <;> intros <;> exact hfailure

section

variable (d : Dialect) (tokens : String → Option (List Token))

instance Grammar.headed_ofDepth : ∀ n, (Grammar.ofDepth d tokens n).Headed
  | 0 => headed_nothing d
  | n + 1 =>
    have := headed_ofDepth n
    { item := Parser.item_spec _
      assignment := Parser.assignment_spec _
      disjunction := Parser.disjunction_spec _
      equality := Parser.equality_spec _
      bitwise := Parser.bitwise_spec _
      term := Parser.term_spec _
      factor := Parser.factor_spec _
      unary := Parser.unary_spec _
      column := Parser.column_spec _
      primary := Parser.primary_spec _
      query := Parser.readQuery_spec _ tokens
      setOperations := fun _ => Parser.setOperations_spec _
      clauses := fun _ => Parser.clauses_spec _ }

end

instance Grammar.headed_grammarOf (d : Dialect) (ts : List Token) : (grammarOf d ts).Headed :=
  headed_ofDepth d (tokenize d) (4 * ts.length + 8)

namespace Column

theorem ofTokens?_headed {ts : List Token} {e : Expr} (h : ofTokens? ts = some (some e)) :
    e.Headed := by
  have hcolumn := Parser.triple_iff.1 (Parser.column_spec (grammarOf .generic ts))
  unfold ofTokens? at h
  split at h
  next e? c hread =>
    split at h
    · obtain rfl := Option.some.inj h
      exact hcolumn _ _ hread e rfl
    · cases h
  next => cases h

/-- Expressions between semicolons begin with the first. -/
theorem ofChunks?_headed {ts : List Token} {e : Expr} (h : ofChunks? ts = some e) : e.Headed := by
  obtain ⟨read, hread, h⟩ := Option.bind_eq_some_iff.1 h
  cases hchunks : Parser.chunks ts with
  | nil =>
    rw [hchunks, List.mapM_nil] at hread
    obtain rfl := Option.some.inj hread
    cases h
  | cons chunk chunks =>
    rw [hchunks, List.mapM_cons] at hread
    obtain ⟨first, hfirst, hread⟩ := Option.bind_eq_some_iff.1 hread
    obtain ⟨more, -, hread⟩ := Option.bind_eq_some_iff.1 hread
    obtain rfl := Option.some.inj hread
    cases first with
    | none => cases h
    | some first =>
      have hheaded := ofTokens?_headed hfirst
      dsimp only at h
      split at h <;> obtain rfl := Option.some.inj h <;> exact hheaded

/-- Fields stand behind what they are found in. -/
theorem fields_headed (more : List Name) {e : Expr} (he : e.Headed) :
    (more.foldl (fun owner n => Expr.field owner (.name n)) e).Headed := by
  induction more generalizing e with
  | nil => exact he
  | cons n more ih => exact ih (e := .field e (.name n)) he

theorem path_headed (first : Name) (more : List Name) : (path first more).Headed :=
  fields_headed more (e := .name first) trivial

theorem ofParts_headed (cs : List Char) : (ofParts cs).Headed := by
  unfold ofParts
  split
  · trivial
  · exact path_headed _ _

end Column

/-- **A column is headed.** -/
theorem columnOf_headed {s : String} {e : Expr} (h : columnOf s = .ok e) : e.Headed := by
  unfold columnOf at h
  split at h
  · cases h
  · rename_i ts _
    obtain rfl := Except.ok.inj h
    cases hread : Column.ofChunks? ts with
    | none => exact Column.ofParts_headed _
    | some e => exact Column.ofChunks?_headed hread

end QueryBook.Sql
