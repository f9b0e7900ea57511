import QueryBook.Sql.Printer

/-!
# Expressions that begin with a part of their own

The printed form of an expression stands apart from what is before it if its first part has a space
before it. All parts that begin an expression have one, except punctuation that is joined to an
operand before it, so that what matters is the leftmost operand: it must not be a list of nothing
(`Expr.Headed`).
-/

namespace QueryBook.Sql

open Layout

mutual

/-- What is leftmost in the expression is no list of nothing. -/
@[simp] def Expr.Headed : Expr → Prop
  | .field e _ | .item e _ | .binary _ e _ | .between e _ _ | .oneOf e _ | .sorted e _ _
  | .aliased e _ | .commented e _ => e.Headed
  | .listed [] | .phrase [] | .series [] => False
  | .listed (e :: _) | .phrase (e :: _) | .series (e :: _) => e.Headed
  | .query q => q.Headed
  | _ => True

/-- What is leftmost in the query is no list of nothing. -/
@[simp] def Query.Headed : Query → Prop
  | .expr e => e.Headed
  | .combined _ _ q _ | .aliased q _ | .refined q _ | .commented q _ => q.Headed
  | _ => True

end

@[simp] theorem Expr.headed_bare (e : Expr) : e.bare.Headed ↔ e.Headed := by
  cases e <;> simp [Expr.bare]

theorem Expr.Headed.of_bare {e b : Expr} (h : e.Headed) (hb : e.bare = b) : b.Headed :=
  hb ▸ (Expr.headed_bare e).2 h

@[simp] theorem Expr.headed_annotated (comments : List String) (e : Expr) :
    (e.annotated comments).Headed ↔ e.Headed := by
  unfold Expr.annotated
  split <;> simp

section

variable (e left right : Expr) (words : String)

@[simp] theorem Expr.headed_calling (function : String) (arguments : List Expr) :
    (Expr.calling function arguments).Headed := trivial

@[simp] theorem Expr.headed_led : (Expr.led words e).Headed := trivial

@[simp] theorem Expr.headed_trailed : (e.trailed words).Headed ↔ e.Headed := Iff.rfl

@[simp] theorem Expr.headed_related : (left.related words right).Headed ↔ left.Headed := Iff.rfl

end

@[simp] theorem Query.headed_annotated (comments : List String) (q : Query) :
    (q.annotated comments).Headed ↔ q.Headed := by
  unfold Query.annotated
  split <;> simp

/-- The first of some parts has a space before it, and there is one. -/
def Apart (ps : List Part) : Prop :=
  ∃ m more, ps = ⟨true, m⟩ :: more

namespace Apart

theorem cons (m : Mark) (more : List Part) : Apart (⟨true, m⟩ :: more) :=
  ⟨m, more, rfl⟩

theorem ne_nil {ps : List Part} (h : Apart ps) : ps ≠ [] := by
  obtain ⟨m, more, rfl⟩ := h
  exact List.cons_ne_nil _ _

theorem head_gap {ps : List Part} (h : Apart ps) : ps.head?.any Part.gap = true := by
  obtain ⟨m, more, rfl⟩ := h
  rfl

theorem append {ps : List Part} (h : Apart ps) (qs : List Part) : Apart (ps ++ qs) := by
  obtain ⟨m, more, rfl⟩ := h
  exact cons m (more ++ qs)

theorem of_append {ps qs : List Part} (h : Apart (ps ++ qs)) (hne : ps ≠ []) : Apart ps := by
  obtain ⟨p, ps, rfl⟩ := List.exists_cons_of_ne_nil hne
  obtain ⟨m, more, hcons⟩ := h
  rw [List.cons_append] at hcons
  exact ⟨m, ps, by rw [(List.cons.inj hcons).1]⟩

theorem between (s : String) (ps : List Part) : Apart (between (.symbol s) ps) :=
  cons _ _

theorem words {ws : List String} (h : ws ≠ []) : Apart (words ws) := by
  obtain ⟨w, ws, rfl⟩ := List.exists_cons_of_ne_nil h
  exact cons _ _

/-- Comments stand apart, and so does what is behind them. -/
theorem comments_append (cs : List String) {ps : List Part} (h : Apart ps) :
    Apart (comments cs ++ ps) := by
  rw [comments]
  cases cs.filter (· != "") with
  | nil => exact h
  | cons c cs => exact cons _ _

theorem separated {mark : String} {group : List Part} (h : Apart group)
    (groups : List (List Part)) : Apart (separated mark (group :: groups)) := by
  cases groups with
  | nil => exact h
  | cons next groups => exact h.append _

theorem operandParts (op : BinaryOp) (e : Expr) {ps : List Part} (h : Apart ps) :
    Apart (operandParts op e ps) := by
  rw [Sql.operandParts]
  split
  · exact between _ _
  · exact h

end Apart

section

variable (d : Dialect)

theorem Name.apart_parts (n : Name) : Apart (n.parts d) := by
  cases n with
  | plain s =>
    rw [Name.parts]
    split <;> exact .cons _ _
  | quoted s => exact .cons _ _
  | bound s => exact .cons _ _
  | anonymous => exact .cons _ _

theorem apart_negated (ps : List Part) : Apart (negated ps) := by
  unfold negated
  split <;> exact .cons _ _

theorem apart_callParts (function : Name) (groups : List (List Part)) :
    Apart (callParts d function groups) := by
  rw [callParts]
  split <;> exact (function.apart_parts d).append _

theorem apart_withParts (w : With Expr Query) : Apart (withParts d w) := by
  obtain ⟨cs, isRecursive, tables⟩ := w
  rw [withParts, List.append_assoc]
  refine .comments_append cs (.append (.words ?_) _)
  split <;> exact List.cons_ne_nil _ _

theorem Apart.append_of_nil_or {ps qs : List Part} (h : ps = [] ∨ Apart ps) (hqs : Apart qs) :
    Apart (ps ++ qs) := by
  rcases h with rfl | h
  · exact hqs
  · exact h.append qs

theorem createParts_nil_or (into? : Option (Clause Query)) :
    createParts d into? = [] ∨ Apart (createParts d into?) := by
  cases into? with
  | none => exact .inl (by rw [createParts])
  | some c =>
    obtain ⟨kind, q⟩ := c
    rw [createParts]
    exact .inr (.append (.append (.words (List.cons_ne_nil _ _)) _) _)

theorem namedParts_nil_or (with? : Option (With Expr Query)) :
    namedParts d with? = [] ∨ Apart (namedParts d with?) := by
  cases with? with
  | none => exact .inl (by rw [namedParts])
  | some w => exact .inr (by rw [namedParts]; exact apart_withParts d w)

/-- A select begins with what makes a table, with the named queries or with its first word. -/
theorem apart_selectParts (s : SelectOf Expr Query) : Apart (selectParts d s) := by
  obtain ⟨with?, cs, hints, distinct?, ws, items, into?, source?, clauses⟩ := s
  have hmade : (if d.intoClause then [] else createParts d into?) = [] ∨
      Apart (if d.intoClause then [] else createParts d into?) := by
    split
    · exact .inl rfl
    · exact createParts_nil_or d into?
  have hselect : Apart (comments cs ++ [Part.word "SELECT"]) := .comments_append cs (.cons _ _)
  rw [selectParts]
  iterate 8 refine Apart.append ?_ _
  rw [List.append_assoc, List.append_assoc]
  exact .append_of_nil_or hmade (.append_of_nil_or (namedParts_nil_or d with?) hselect)

theorem BinaryOp.parts_ne_nil (op : BinaryOp) : op.parts ≠ [] := by
  cases op <;> exact List.cons_ne_nil _ _

/-- Comments stand behind an expression, or behind the operator of two operands. -/
theorem apart_commented {e : Expr} (h : Apart (e.parts d)) (cs : List String) :
    Apart ((Expr.commented e cs).parts d) := by
  cases e with
  | binary op left right =>
    simp only [Expr.parts] at h ⊢
    have hleft := h.of_append (by simp [op.parts_ne_nil])
    exact (hleft.append _).append _
  | _ => exact h.append _

mutual

/-- **A headed expression stands apart.** -/
theorem Expr.Headed.apart : ∀ {e : Expr}, e.Headed → Apart (e.parts d)
  | .name n, _ => n.apart_parts d
  | .variable _, _ | .star, _ | .number _, _ | .text _, _ | .marked .., _ | .constant _, _
  | .word _, _ | .type .., _ | .unary .complement _, _ | .unary .not _, _ | .cast .., _
  | .group _, _ | .tuple _, _ => .cons _ _
  | .case subject _ otherwise, _ => by
    cases subject <;> cases otherwise <;> exact .cons _ _
  | .unary .negative e, _ => apart_negated _
  | .call function _, _ => apart_callParts d function _
  | .field e _, h | .item e _, h | .oneOf e _, h | .aliased e _, h =>
    (Expr.Headed.apart (e := e) h).append _
  | .between e _ _, h | .sorted e _ _, h => ((Expr.Headed.apart (e := e) h).append _).append _
  | .binary op left _, h =>
    ((Apart.operandParts op left (Expr.Headed.apart (e := left) h)).append _).append _
  | .listed (e :: _), h | .series (e :: _), h => by
    rw [Expr.parts, exprsParts]
    exact .separated (Expr.Headed.apart (e := e) h) _
  | .phrase (e :: _), h => (Expr.Headed.apart (e := e) h).append _
  | .query q, h => Query.Headed.apart (q := q) h
  | .commented e cs, h => apart_commented d (Expr.Headed.apart (e := e) h) cs

/-- A headed query stands apart. -/
theorem Query.Headed.apart : ∀ {q : Query}, q.Headed → Apart (q.parts d)
  | .expr e, h => Expr.Headed.apart (e := e) h
  | .select s, _ => apart_selectParts d s
  | .values _, _ | .nested _, _ => .cons _ _
  | .with w _, _ => (apart_withParts d w).append _
  | .combined _ _ q _, h => (((Query.Headed.apart (q := q) h).append _).append _).append _
  | .aliased q _, h | .refined q _, h | .commented q _, h =>
    (Query.Headed.apart (q := q) h).append _

end

end

end QueryBook.Sql
