import QueryBook.Proofs.Sql.Covered

/-!
# The parts of printed selects

A select is printed as its first word and what stands behind it: the projected expressions, the
sources and the clauses, each of which is a word and an expression (`Outline.endings`). A query that
is made of selects begins with the word of its first select, or with `WITH`.
-/

namespace QueryBook.Sql

open Layout
open Lexeme (kw)

variable (d : Dialect)

/-- The lexemes of an expression behind a word, if there is one. -/
def Lexeme.behind (w : String) : Option Expr → List Lexeme
  | none => []
  | some e => .ofWord w :: e.lexemes d

namespace Outline

variable (o : Outline)

/-- The clauses behind the sources in their order, each with its word. -/
def endings : List (String × Option Expr) :=
  [("WHERE", o.where?), ("GROUP BY", listed? o.groups), ("HAVING", o.having?),
   ("ORDER BY", listed? o.keys), ("LIMIT", if d.leadingLimit then none else o.limit?),
   ("OFFSET", o.offset?)]

/-- The parts of the clauses behind the sources. -/
def endingsParts : List Part :=
  (o.endings d).flatMap fun w => partsBehind d [w.1] w.2

/-- The parts before the projected expressions. -/
def leadingParts : List Part :=
  (if o.isDistinct then [.word "DISTINCT"] else []) ++
    if d.leadingLimit then topParts d (o.limit?.map clause) else []

/-- The parts behind the first word. -/
def bodyParts : List Part :=
  o.leadingParts d ++ (commas (exprsParts d o.items) ++ (sourceParts d (o.from?.map clause) ++
    (joinsParts d o.joins ++ o.endingsParts d)))

end Outline

theorem clauseParts_clause (ws : List String) (e? : Option Expr) :
    clauseParts d ws (e?.map Outline.clause) = partsBehind d ws e? := by
  cases e? <;> simp [clauseParts, partsBehind, Outline.clause, comments]

theorem limitParts_outline {e? : Option Expr} (h : ∀ e ∈ e?, e.parts d ≠ []) :
    (if (limitParts d (e?.map Outline.clause)).isEmpty then []
      else .word "LIMIT" :: limitParts d (e?.map Outline.clause)) = partsBehind d ["LIMIT"] e? := by
  cases e? with
  | none => simp [limitParts, partsBehind]
  | some e => simp [limitParts, partsBehind, Outline.clause, comments, words, h e rfl]

theorem clausesParts_outline {o : Outline} (hoffset : o.offset?.isSome → d.leadingLimit = false)
    (hlimit : ∀ e ∈ o.limit?, e.parts d ≠ []) :
    clausesParts d d.leadingLimit o.clauses = joinsParts d o.joins ++ o.endingsParts d := by
  have hcount := limitParts_outline d hlimit
  have hnone (ws : List String) : partsBehind d ws none = [] := by simp [partsBehind]
  rw [Outline.clauses, clausesParts]
  simp only [clauseParts_clause, hnone, queriesParts, exprsParts, listBehind, List.append_nil,
    List.flatten_nil, List.isEmpty_nil, if_true, ite_self, List.append_assoc, endParts, hcount]
  cases hled : d.leadingLimit with
  | false => simp [Outline.endingsParts, Outline.endings, hled]
  | true =>
    have hempty : o.offset? = none := by
      cases h : o.offset? with
      | none => rfl
      | some e => exact absurd (hoffset (by simp [h])) (by simp [hled])
    simp [Outline.endingsParts, Outline.endings, hled, hempty, hnone]

theorem selectParts_outline {o : Outline} (hoffset : o.offset?.isSome → d.leadingLimit = false)
    (hlimit : ∀ e ∈ o.limit?, e.parts d ≠ []) :
    selectParts d o.select = .word "SELECT" :: o.bodyParts d := by
  have hdistinct : partsBehind d [] (if o.isDistinct then some (.word "DISTINCT") else none) =
      if o.isDistinct then [.word "DISTINCT"] else [] := by
    cases o.isDistinct <;> simp [partsBehind, words, Expr.parts]
  have htop : d.leadingLimit = true → leadingLimitParts d o.clauses =
      topParts d (o.limit?.map Outline.clause) := by
    intro hled
    have hempty : o.offset?.isSome = false := by
      cases h : o.offset?.isSome with
      | false => rfl
      | true => exact absurd (hoffset h) (by simp [hled])
    simp [Outline.clauses, leadingLimitParts, hempty]
  rw [Outline.select, selectParts, clausesParts_outline d hoffset hlimit, hdistinct]
  cases hled : d.leadingLimit with
  | false => simp [createParts, intoParts, namedParts, hintParts, exprsParts, words, comments,
      Outline.bodyParts, Outline.leadingParts, hled]
  | true => simp [createParts, intoParts, namedParts, hintParts, exprsParts, words, comments,
      Outline.bodyParts, Outline.leadingParts, hled, htop hled]

/-! ## Joins -/

attribute [local simp] joinsParts

theorem joinsParts_cons (j : Join) (js : List Join) :
    joinsParts d (j :: js) = joinsParts d [j] ++ joinsParts d js := by
  obtain ⟨cs, ws, q, on?, shared⟩ := j
  cases ws <;> cases on? <;> cases shared <;> simp

theorem joinsParts_comma (q : Query) :
    joinsParts d [⟨[], [], q, none, []⟩] = .joined "," :: q.parts d := by
  simp [comments, tight, Part.joined]

theorem joinWords_eq {ws : List String} (hws : (ws == ["STRAIGHT_JOIN"]) = false) :
    joinsParts.joinWords ws = ws ++ ["JOIN"] := by
  simp [joinsParts.joinWords, hws]

theorem joinsParts_bare {ws : List String} (hne : ws ≠ [])
    (hws : (ws == ["STRAIGHT_JOIN"]) = false) (q : Query) :
    joinsParts d [⟨[], ws, q, none, []⟩] = words (ws ++ ["JOIN"]) ++ q.parts d := by
  obtain ⟨w, ws, rfl⟩ := List.exists_cons_of_ne_nil hne
  simp [joinWords_eq hws, comments]

theorem joinsParts_on {ws : List String} (hws : (ws == ["STRAIGHT_JOIN"]) = false) (q : Query)
    (e : Expr) : joinsParts d [⟨[], ws, q, some e, []⟩] =
      words (ws ++ ["JOIN"]) ++ (q.parts d ++ .word "ON" :: e.parts d) := by
  cases ws <;> simp [joinWords_eq hws, comments]

theorem joinsParts_using {ws : List String} (hws : (ws == ["STRAIGHT_JOIN"]) = false) (q : Query)
    {es : List Expr} (hes : es ≠ []) : joinsParts d [⟨[], ws, q, none, es⟩] =
      words (ws ++ ["JOIN"]) ++
        (q.parts d ++ .word "USING" :: between (.symbol "(") (commas (exprsParts d es))) := by
  obtain ⟨e, es, rfl⟩ := List.exists_cons_of_ne_nil hes
  cases ws <;> simp [joinWords_eq hws, comments]

/-! ## Queries -/

namespace Outline

/-- The select without its order and its limits. -/
def withoutEnd (o : Outline) : Outline :=
  { o with keys := [], limit? := none, offset? := none }

/-- The clauses of the order and the limits, behind the other ones. -/
theorem bodyParts_withoutEnd (o : Outline) (hled : d.leadingLimit = true → o.limit? = none) :
    o.bodyParts d = o.withoutEnd.bodyParts d ++ (partsBehind d ["ORDER BY"] (listed? o.keys) ++
      (partsBehind d ["LIMIT"] o.limit? ++ partsBehind d ["OFFSET"] o.offset?)) := by
  have hnone (ws : List String) : partsBehind d ws none = [] := by simp [partsBehind]
  have hleading : o.withoutEnd.leadingParts d = o.leadingParts d := by
    cases h : d.leadingLimit with
    | false =>
      rw [leadingParts, leadingParts, h]
      rfl
    | true =>
      rw [leadingParts, leadingParts, hled h]
      rfl
  rw [bodyParts, bodyParts, hleading]
  cases h : d.leadingLimit with
  | false => simp [endingsParts, endings, withoutEnd, h, hnone, listed?]
  | true => simp [endingsParts, endings, withoutEnd, h, hnone, listed?, hled h]

end Outline

/-- The order and the limits of the last select are printed in the same place as those of the whole
query. -/
theorem parts_withEnd {ws : List String} {left : Query} {o : Outline}
    (hlimit : ∀ e ∈ o.limit?, e.parts d ≠ [])
    (hoffset : o.offset?.isSome → d.leadingLimit = false)
    (hled : d.leadingLimit = true → o.limit? = none) :
    (Parser.withEnd (.combined ws [] left (.select o.select))).parts d =
      (Query.combined ws [] left (.select o.select)).parts d := by
  have hsplit : Parser.splitEnd (.select o.select) = ({ ClausesOf.empty with
      orderBy? := (Outline.listed? o.keys).map Outline.clause
      limit? := o.limit?.map Outline.clause
      offset? := o.offset? }, .select o.withoutEnd.select) := rfl
  have hend : clausesParts d false { ClausesOf.empty with
      orderBy? := (Outline.listed? o.keys).map Outline.clause
      limit? := o.limit?.map Outline.clause
      offset? := o.offset? } = partsBehind d ["ORDER BY"] (Outline.listed? o.keys) ++
        (partsBehind d ["LIMIT"] o.limit? ++ partsBehind d ["OFFSET"] o.offset?) := by
    have hnone (ws : List String) : partsBehind d ws none = [] := by simp [partsBehind]
    have hcount := limitParts_outline d hlimit
    rw [ClausesOf.empty, clausesParts]
    simp only [joinsParts, queriesParts, exprsParts, listBehind, clauseParts_clause, clauseParts,
      hnone, endParts, hcount, List.nil_append, List.append_nil, List.flatten_nil, List.isEmpty_nil,
      if_true, ite_self, List.append_assoc, Bool.not_false]
  have hwhole := selectParts_outline d hoffset hlimit
  have hrest : selectParts d o.withoutEnd.select = .word "SELECT" :: o.withoutEnd.bodyParts d :=
    selectParts_outline d (fun h => by cases h) (fun _ h => by cases h)
  rw [Parser.withEnd, hsplit]
  dsimp only
  split
  · rw [Query.parts, Query.parts, Query.parts, Query.parts, Query.parts, hend, hrest, hwhole,
      o.bodyParts_withoutEnd d hled]
    simp
  · rfl

/-- Named queries are put into a select, or in front of another query. -/
theorem withNamed_cases {w : With Expr Query} {q q' : Query} (h : Parser.withNamed w q = some q') :
    (∃ s, q' = .select s) ∨ ∃ q₀, q' = .with w q₀ := by
  fun_induction Parser.withNamed w q with
  | case1 s => exact .inl ⟨_, (Option.some.inj h).symm⟩
  | case2 q ih | case3 q comments ih => exact ih h
  | _ => first | exact .inr ⟨_, (Option.some.inj h).symm⟩ | cases h

/-- What is printed with named queries in front of it is printed as before behind them. -/
theorem parts_withNamed {w : With Expr Query} {q q' : Query} (h : Parser.withNamed w q = some q')
    (hq : (∃ o : Outline, q = .select o.select) ∨ (∃ ws cs left right, q = .combined ws cs left right) ∨
      ∃ q₀ c, q = .refined q₀ c) : q'.parts d = withParts d w ++ q.parts d := by
  rcases hq with ⟨o, rfl⟩ | ⟨ws, cs, left, right, rfl⟩ | ⟨q₀, c, rfl⟩
  · cases h
    rw [Query.parts, Query.parts, Outline.select, selectParts, selectParts]
    simp [createParts, namedParts]
  · cases h
    simp only [Query.parts]
  · cases h
    simp only [Query.parts]

end QueryBook.Sql
