import QueryBook.Sql.Edit

/-!
# The text of an edited select

The condition of a select stands in one place of its text, and what stands before and behind it is
the same for every condition (`printSelect_filter`).
-/

namespace QueryBook.Sql

open Layout

namespace Layout

variable (d : Dialect) (p : Part) (ps qs : List Part)

@[simp] theorem chars_append : chars d (ps ++ qs) = chars d ps ++ chars d qs := by
  induction ps with
  | nil => rfl
  | cons p ps ih => simp [chars, ih]

/-- Behind other parts, parts keep the space in front of them. -/
theorem tight_append {ps : List Part} (hps : ps ≠ []) (qs : List Part) :
    tight (ps ++ qs) = tight ps ++ qs := by
  cases ps with
  | nil => exact absurd rfl hps
  | cons p ps => rfl

theorem line_append {ps : List Part} (hps : ps ≠ []) (qs : List Part) :
    line d (ps ++ qs) = line d ps ++ String.ofList (chars d qs) := by
  rw [line, tight_append hps, chars_append, String.ofList_append, line]

/-- A line behind a space, if its first part asks for one. -/
theorem ofList_chars {ps : List Part} (h : ps.head?.any Part.gap = true) :
    String.ofList (chars d ps) = " " ++ line d ps := by
  cases ps with
  | nil => simp at h
  | cons p ps =>
    have hgap : p.gap = true := by simpa using h
    rw [← String.toList_inj]
    simp [line, tight, chars, hgap]

end Layout

section

variable (d : Dialect)

/-- The clauses of a select stand behind the rest of it, which depends on no more of them than the
limit in front. -/
theorem selectParts_clauses (s : Select) :
    ∃ front : List Part, front ≠ [] ∧ ∀ c : Clauses,
      leadingLimitParts d c = leadingLimitParts d s.clauses →
        selectParts d { s with clauses := c } = front ++ clausesParts d d.leadingLimit c := by
  obtain ⟨with?, cs, hints, distinct?, ws, items, into?, source?, clauses⟩ := s
  refine ⟨?front, ?nonempty, ?split⟩
  case split =>
    intro c hc
    rw [selectParts, hc]
  case nonempty => simp

/-- The condition stands between the sources and the other clauses. -/
theorem clausesParts_where (isLed : Bool) (c : Clauses) :
    ∃ sources behind : List Part, ∀ e : Expr,
      clausesParts d isLed { c with where? := some ⟨[], e⟩ } =
        sources ++ (.word "WHERE" :: e.parts d ++ behind) := by
  obtain ⟨joins, laterals, where?, groupBy?, having?, spreads, windows, qualify?, orderBy?, limit?,
    offset?, fetch?, locks, sample?⟩ := c
  refine ⟨joinsParts d joins ++ queriesParts d laterals, ?behind, ?split⟩
  case split =>
    intro e
    have hwhere : clauseParts d ["WHERE"] (some ⟨[], e⟩) = .word "WHERE" :: e.parts d := by
      simp [clauseParts, comments, words]
    rw [clausesParts, hwhere]
    simp only [List.append_assoc]
    rfl

/-- The condition of a select stands between two groups of parts that do not depend on it. -/
theorem selectParts_filter (s : Select) :
    ∃ front behind : List Part, front ≠ [] ∧ ∀ e : Expr,
      selectParts d (s.filter (some e)) = front ++ (.word "WHERE" :: e.parts d ++ behind) := by
  obtain ⟨front, hfront, hclauses⟩ := selectParts_clauses d s
  obtain ⟨sources, behind, hwhere⟩ := clausesParts_where d d.leadingLimit s.clauses
  refine ⟨front ++ sources, behind, by simp [hfront], fun e => ?_⟩
  have hlimit : leadingLimitParts d { s.clauses with where? := some ⟨[], e⟩ } =
      leadingLimitParts d s.clauses := by
    cases s.clauses
    rw [leadingLimitParts, leadingLimitParts]
  exact (hclauses _ hlimit).trans (by rw [hwhere, List.append_assoc])

/-- The text of a select with a condition: what stands before and behind the condition is the same
for all conditions. -/
theorem printSelect_filter (s : Select) :
    ∃ before behind : String, ∀ e : Expr,
      printSelect d (s.filter (some e)) =
        before ++ " WHERE" ++ String.ofList (chars d (e.parts d)) ++ behind := by
  obtain ⟨front, behind, hfront, hparts⟩ := selectParts_filter d s
  refine ⟨line d front, String.ofList (chars d behind), fun e => ?_⟩
  have hword : String.ofList (chars d [.word "WHERE"]) = " WHERE" := rfl
  have hall : front ++ (Part.word "WHERE" :: e.parts d ++ behind) =
      front ++ ([.word "WHERE"] ++ (e.parts d ++ behind)) := rfl
  rw [printSelect, hparts, hall, line_append d hfront, chars_append, chars_append,
    String.ofList_append, String.ofList_append, hword]
  simp only [String.append_assoc]

end

end QueryBook.Sql
