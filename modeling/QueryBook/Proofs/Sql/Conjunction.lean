import QueryBook.Proofs.Sql.Conditions
import QueryBook.Proofs.Sql.Headed.Column
import QueryBook.Proofs.Sql.Literal

/-!
# The conjunction of a condition

A condition is built from its entries in order. It fails at the first entry that is rejected;
otherwise its left spine is one equality for each entry (`buildCondition_spine`), and it is printed
as these with `AND` between them. The printed form needs that a space stands before every operand,
which is why columns must be headed.
-/

namespace QueryBook

namespace Sql

open Layout

/-! ## Operators between headed operands -/

/-- An operand as it is printed, perhaps between parentheses. -/
def operandText (d : Dialect) (op : BinaryOp) (e : Expr) : String :=
  if op.encloses e then "(" ++ printExpr d e ++ ")" else printExpr d e

section

variable (d : Dialect)

/-- What stands apart is printed behind a space. -/
theorem line_append_apart {ps qs : List Part} (hps : ps ≠ []) (hqs : Apart qs) :
    line d (ps ++ qs) = line d ps ++ " " ++ line d qs := by
  rw [line_append d hps, ofList_chars d hqs.head_gap, String.append_assoc]

theorem apart_operator (op : BinaryOp) : Apart op.parts := by
  cases op <;> exact .cons _ _

theorem line_between (ps : List Part) :
    line d (between (.symbol "(") ps) = "(" ++ line d ps ++ ")" := by
  have hopen : line d [Part.symbol "("] = "(" := rfl
  have hclose : String.ofList (chars d [Part.joined ")"]) = ")" := rfl
  have hparts : between (.symbol "(") ps = [Part.symbol "("] ++ (tight ps ++ [Part.joined ")"]) :=
    rfl
  rw [hparts, line_append d (List.cons_ne_nil _ _), chars_append, String.ofList_append, hopen,
    hclose, line, String.append_assoc]

theorem line_operandParts (op : BinaryOp) (e : Expr) :
    line d (operandParts op e (e.parts d)) = operandText d op e := by
  unfold operandParts operandText
  split
  · exact line_between d _
  · rfl

/-- Two headed operands are printed with spaces around the operator. -/
theorem printExpr_binary (op : BinaryOp) {left right : Expr} (hleft : left.Headed)
    (hright : right.Headed) :
    printExpr d (.binary op left right) =
      operandText d op left ++ " " ++ line d op.parts ++ " " ++ operandText d op right := by
  have hfirst : Apart (operandParts op left (left.parts d)) := .operandParts op left (hleft.apart d)
  have hlast : Apart (operandParts op right (right.parts d)) :=
    .operandParts op right (hright.apart d)
  rw [printExpr, Expr.parts, line_append_apart d (hfirst.append _).ne_nil hlast,
    line_append_apart d hfirst.ne_nil (apart_operator op), line_operandParts, line_operandParts]

end

/-! ## The spine of a conjunction -/

/-- The conditions that a conjunction joins from the left, beginning with the innermost. -/
def Expr.spine : Expr → List Expr
  | .binary .and left right => left.spine ++ [right]
  | e => [e]

theorem Expr.spine_ne_nil (e : Expr) : e.spine ≠ [] := by
  fun_cases Expr.spine e
  · exact List.append_ne_nil_of_right_ne_nil _ (List.cons_ne_nil _ _)
  · exact List.cons_ne_nil _ _

/-- The innermost condition leads the conjunction. -/
theorem Expr.headed_of_spine {e : Expr} (h : ∀ c ∈ e.spine, c.Headed) : e.Headed := by
  fun_induction Expr.spine e with
  | case1 left right ih => exact ih fun c hc => h c (List.mem_append_left _ hc)
  | case2 e => exact h e (List.mem_singleton_self e)

theorem printExpr_spine (d : Dialect) {e : Expr} (h : ∀ c ∈ e.spine, c.Headed) :
    printExpr d e = " AND ".intercalate (e.spine.map (printExpr d)) := by
  fun_induction Expr.spine e with
  | case1 left right ih =>
    obtain ⟨hspine, hright⟩ := List.forall_mem_append.1 h
    have hsign : " " ++ line d BinaryOp.and.parts ++ " " = " AND " := rfl
    have hopen (e : Expr) : operandText d .and e = printExpr d e := by
      rw [operandText, Condition.and_encloses, if_neg (by decide)]
    rw [printExpr_binary d .and (Expr.headed_of_spine hspine)
        (hright right (List.mem_singleton_self _)),
      hopen, hopen, ih hspine, List.map_append, List.map_singleton,
      String.intercalate_append_of_ne_nil (by simpa using left.spine_ne_nil) (List.cons_ne_nil _ _),
      String.intercalate_singleton, ← hsign]
    simp only [String.append_assoc]
  | case2 e => exact String.intercalate_singleton.symm

theorem spine_conjunction (first : Expr) (more : List Expr) :
    (Condition.conjunction first more).spine = first.spine ++ more := by
  induction more generalizing first with
  | nil => exact (List.append_nil _).symm
  | cons e more ih => exact (ih (.binary .and first e)).trans (List.append_assoc _ _ _)

/-! ## Entries -/

namespace Condition

/-- The equality that an entry asks for: its column and its value are both accepted. -/
def Asks (entry : String × Value) (e : Expr) : Prop :=
  ∃ column value, columnOf entry.1 = .ok column ∧ literal entry.2 = .ok value ∧
    e = .binary .equal column value

/-- An entry that is rejected, and why: its column cannot be read, or else its value is neither a
text nor a number. -/
inductive Rejected : String × Value → Failure → Prop
  | column {name : String} {v : Value} {failure : Failure} (h : columnOf name = .error failure) :
    Rejected (name, v) failure
  | value {name : String} {column : Expr} (h : columnOf name = .ok column) (kind : Kind) :
    Rejected (name, .other kind) (.incomparable kind)

theorem equality_cases (name : String) (v : Value) :
    (∃ e, equality name v = .ok e ∧ Asks (name, v) e) ∨
      ∃ failure, equality name v = .error failure ∧ Rejected (name, v) failure := by
  cases hcolumn : columnOf name with
  | error failure => exact .inr ⟨failure, by rw [equality, hcolumn]; rfl, .column hcolumn⟩
  | ok column =>
    cases hliteral : literal v with
    | error failure =>
      obtain ⟨kind, rfl, rfl⟩ := literal_error_iff.1 hliteral
      exact .inr ⟨_, by rw [equality, hcolumn, hliteral]; rfl, .value hcolumn kind⟩
    | ok value =>
      exact .inl ⟨_, by rw [equality, hcolumn, hliteral]; rfl, column, value, hcolumn, hliteral,
        rfl⟩

/-- The equalities are built one after the other, up to the first entry that is rejected. -/
theorem mapM_equality_cases (entries : List (String × Value)) :
    (∃ es, entries.mapM (fun entry => equality entry.1 entry.2) = .ok es ∧
        List.Forall₂ Asks entries es) ∨
      ∃ before entry behind failure, entries = before ++ entry :: behind ∧
        (∀ entry ∈ before, ∃ e, Asks entry e) ∧ Rejected entry failure ∧
        entries.mapM (fun entry => equality entry.1 entry.2) = .error failure := by
  induction entries with
  | nil => exact .inl ⟨[], rfl, .nil⟩
  | cons entry entries ih =>
    rcases equality_cases entry.1 entry.2 with ⟨e, he, hasks⟩ | ⟨failure, hfailure, hrejected⟩
    · rcases ih with ⟨es, hes, hall⟩ | ⟨before, next, behind, failure, rfl, hall, hrejected, hes⟩
      · exact .inl ⟨e :: es, by rw [List.mapM_cons, he, hes]; rfl, .cons hasks hall⟩
      · refine .inr ⟨entry :: before, next, behind, failure, rfl, ?_, hrejected, ?_⟩
        · exact List.forall_mem_cons.2 ⟨⟨e, hasks⟩, hall⟩
        · rw [List.mapM_cons, he, hes]
          rfl
    · exact .inr ⟨[], entry, entries, failure, rfl, nofun, hrejected,
        by rw [List.mapM_cons, hfailure]; rfl⟩

/-- Every equality is asked for by an entry. -/
theorem exists_asks_of_mem {entries : List (String × Value)} {es : List Expr}
    (h : List.Forall₂ Asks entries es) {e : Expr} (he : e ∈ es) :
    ∃ entry ∈ entries, Asks entry e := by
  induction h with
  | nil => cases he
  | @cons entry _ _ _ hasks _ ih =>
    rcases List.mem_cons.1 he with rfl | he
    · exact ⟨entry, List.mem_cons_self, hasks⟩
    · obtain ⟨entry, hentry, hasks⟩ := ih he
      exact ⟨entry, List.mem_cons_of_mem _ hentry, hasks⟩

theorem Asks.headed {entry : String × Value} {e : Expr} (h : Asks entry e) : e.Headed := by
  obtain ⟨column, value, hcolumn, -, rfl⟩ := h
  exact columnOf_headed (e := column) hcolumn

/-- An equality is printed as its column, the sign and its literal. -/
theorem Asks.printExpr (d : Dialect) {entry : String × Value} {column value : Expr}
    (h : Asks entry (.binary .equal column value)) :
    printExpr d (.binary .equal column value) =
      operandText d .equal column ++ " = " ++ printExpr d value := by
  obtain ⟨_, _, hcolumn, hvalue, heq⟩ := h
  cases heq
  have hsign : " " ++ line d BinaryOp.equal.parts ++ " " = " = " := rfl
  obtain ⟨hopen, hheaded⟩ := literal_parts hvalue
  rw [printExpr_binary d .equal (columnOf_headed hcolumn) hheaded, ← hsign,
    operandText.eq_1 d .equal value, hopen, if_neg (by decide)]
  simp only [String.append_assoc]

end Condition

end Sql

open Sql Condition

/-- Conditions are joined from the left, and a column that is a test stands between parentheses. -/
example :
    (buildCondition [("a", .number (.int 1)), ("GLOB(b, 'x')", .text "y"),
        ("c", .number (.int (-2)))]).map (Option.map (printExpr .generic)) =
      .ok (some "a = 1 AND ('x' GLOB b) = 'y' AND c = -2") := by
  decide +kernel

end QueryBook
