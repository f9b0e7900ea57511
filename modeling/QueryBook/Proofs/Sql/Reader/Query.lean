import QueryBook.Proofs.Sql.Reader.Barrier
import QueryBook.Proofs.Sql.Reader.Call
import QueryBook.Proofs.Sql.Reader.Source
import QueryBook.Sql.Parser.Query

/-!
# Reading queries

The clauses behind a select are read by a loop, whose steps are the clauses in the order in which
they are printed. Set operations are another loop, over queries; the order and the limits of its last
query belong to all of them.
-/

namespace QueryBook.Sql

open Lexeme (kw lastOf)

namespace Parser

variable {g : Grammar} {ls ms rest : List Lexeme} {e : Expr} {c : Clauses}

/-! ## Joins -/

theorem joins_reads {phrase : Join → List Lexeme} {js : List Join} (hrest : Follows .join rest)
    (hfollow : ∀ j ∈ js, ∀ rest, Follows .join rest → Follows .join (phrase j ++ rest))
    (hread : ∀ j ∈ js, ∀ rest, Follows .join rest → ∀ p, Reads (join g p) (phrase j) (some j) rest)
    (hne : ∀ j ∈ js, phrase j ≠ [])
    (hend : ∀ p, Leaves (join g p) none rest) : Reads (joins g) (js.flatMap phrase) js rest := by
  intro last?
  have hmany (p : Parser (List Join)) :
      Reads (many (join g p)) (js.flatMap phrase) (js.map id) rest :=
    many_reads hrest hfollow (fun j hj rest hf => hread j hj rest hf p) hne (hend p)
  simp only [List.map_id] at hmany
  simp only [joins, run_bind, run_get, Option.bind_some, Cursor.before_rest_length]
  exact hmany _ last?

/-! ## Sort keys -/

/-- The word of a direction. -/
def directionLexemes : Option Direction → List Lexeme
  | none => []
  | some .ascending => [kw "ASC"]
  | some .descending => [kw "DESC"]

/-- The words about nulls behind a sort key, if they are not there anyway. -/
def nullsLexemes (d : Dialect) (direction : Option Direction) (nullsFirst : Bool) : List Lexeme :=
  if nullsFirst == ((direction == some .descending) == d.nullsLarge) then []
  else [.word "NULLS", if nullsFirst then kw "FIRST" else .word "LAST"]

theorem reads_nulls (nullsFirst : Bool) :
    Reads (reads ["NULLS", if nullsFirst then "FIRST" else "LAST"])
      [.word "NULLS", if nullsFirst then kw "FIRST" else .word "LAST"] true rest := by
  intro last?
  have hnulls : (Lexeme.word "NULLS").reads "NULLS" = true := by decide
  have hfirst : (kw "FIRST").reads "FIRST" = true := by decide
  have hlast : (Lexeme.word "LAST").reads "LAST" = true := by decide
  cases nullsFirst <;> simp [Parser.reads, hnulls, hfirst, hlast]

theorem reads_nulls_other :
    Leaves (reads ["NULLS", "FIRST"]) false (.word "NULLS" :: .word "LAST" :: rest) :=
  reads_pair_leaves (by decide : (Lexeme.word "LAST").reads "FIRST" = false)

/-- A sort key with its direction and the words about nulls. -/
theorem sortKey_reads {direction : Option Direction} {nullsFirst : Bool}
    (h : Reads g.disjunction ls (some e) (directionLexemes direction ++
      (nullsLexemes g.dialect direction nullsFirst ++ rest)))
    (hf : Follows .key rest) :
    Reads (sortKey g) (ls ++ (directionLexemes direction ++ nullsLexemes g.dialect direction nullsFirst))
      (some (.sorted e direction nullsFirst)) rest := by
  have hasc := hf.keyword "ASC" (by decide)
  have hdesc := hf.keyword "DESC" (by decide)
  have hnulls (word : String) : Leaves (reads ["NULLS", word]) false rest :=
    hf.reads "NULLS" [word] (by decide)
  have hfirst : Reads (reads ["NULLS", "FIRST"]) [.word "NULLS", kw "FIRST"] true rest :=
    reads_nulls true
  have hlast : Reads (reads ["NULLS", "LAST"]) [.word "NULLS", .word "LAST"] true rest :=
    reads_nulls false
  have hother : Leaves (reads ["NULLS", "FIRST"]) false (.word "NULLS" :: .word "LAST" :: rest) :=
    reads_nulls_other
  simp only [Reads, List.cons_append, List.nil_append, Lexeme.lastOf_cons, Lexeme.lastOf_nil]
    at hfirst hlast
  intro last?
  have hrun := h last?
  rcases direction with _ | _ | _ <;> cases nullsFirst <;> cases hlarge : g.dialect.nullsLarge <;>
    simp [nullsLexemes, directionLexemes, hlarge] at hrun ⊢ <;>
    simp [sortKey, hrun, hasc _, hdesc _, hnulls _ _, hfirst _, hlast _, hother _, hlarge]

/-! ## Clauses -/

theorem clause_reads {p : Parser Expr} {l : Lexeme} (h : Reads p ls e rest) :
    Reads (clause p) (l :: ls) ⟨[], e⟩ rest := by
  intro last?
  simp [clause, h _]

theorem nextClause_reads_where (h : Reads g.disjunction ls (some e) rest) (hc : c.where? = none) :
    Reads (nextClause g c) (kw "WHERE" :: ls) (some { c with where? := some ⟨[], e⟩ }) rest := by
  intro last?
  have hclause : Reads (clause (required g.disjunction)) (kw "WHERE" :: ls) ⟨[], e⟩ rest :=
    clause_reads fun last? => by simp [required, h _]
  have hrun := hclause last?
  rw [List.cons_append] at hrun
  simp [nextClause, once, hrun, hc]

theorem nextClause_reads_having (h : Reads g.disjunction ls (some e) rest) (hc : c.having? = none) :
    Reads (nextClause g c) (kw "HAVING" :: ls) (some { c with having? := some ⟨[], e⟩ }) rest := by
  intro last?
  have hclause : Reads (clause (required g.disjunction)) (kw "HAVING" :: ls) ⟨[], e⟩ rest :=
    clause_reads fun last? => by simp [required, h _]
  have hrun := hclause last?
  rw [List.cons_append] at hrun
  simp [nextClause, once, hrun, hc]

theorem nextClause_reads_order {keys : List Expr} (hkeys : keys ≠ [])
    (h : Reads (separated (sortKey g)) ls keys rest) (hc : c.orderBy? = none) :
    Reads (nextClause g c) (kw "ORDER BY" :: ls)
      (some { c with orderBy? := some ⟨[], .listed keys⟩ }) rest := by
  intro last?
  simp [nextClause, once, required, order, someOf, h _, hkeys, hc]

/-! ### Groups -/

/-- A key that rows are grouped by. -/
def groupKey (g : Grammar) : Parser (Option Expr) := do
  if ← sees fun l => l.isKeyword "CUBE" || l.isKeyword "ROLLUP" then return none
  else g.disjunction

/-- One step among groupings: keys, and a grouping by several lists behind them. -/
def groupStep (g : Grammar) (found : Grouping × Bool) : Parser (Option (Grouping × Bool)) := do
  if found.2 then return none
  let c ← get
  let keys ← separated (groupKey g)
  let r := { found.1 with keys := found.1.keys ++ keys }
  let behind ← get
  let isWord ← keyword "WITH"
  let r ← do
    match ← partGrouping g isWord with
    | some e => pure (r.add e)
    | none =>
      match ← groupingSets g with
      | some e => pure { r with sets := r.sets ++ [e] }
      | none => if ← reads ["TOTALS"] then pure { r with hasTotals := true } else pure r
  let isNew := (← get).rest.length + (if isWord then 1 else 0) < behind.rest.length
  if isNew then return some (r, (← get).rest.length == c.rest.length)
  else
    retreat behind
    return some (r, true)

theorem groupings_eq : groupings g = (do
    let (r, _) ← iterate (groupStep g) ((⟨[], [], [], [], false⟩ : Grouping), false)
    return r.parts) := rfl

theorem groupKey_reads (h : Reads g.disjunction ls (some e) rest)
    (hhead : (ls ++ rest).head?.any (fun l => l.isKeyword "CUBE" || l.isKeyword "ROLLUP") = false) :
    Reads (groupKey g) ls (some e) rest := by
  intro last?
  simp only [groupKey, run_bind, run_sees, Option.bind_some, hhead]
  exact h last?

theorem nextClause_reads_group {keys : List Expr} (hls : ls ≠ [])
    (h : Reads (separated (groupKey g)) ls keys rest)
    (hhead : ls.head?.any (fun l => l.isKeyword "ALL" || l.isKeyword "DISTINCT") = false)
    (hf : Follows .clause rest) (hc : c.groupBy? = none) :
    Reads (nextClause g c) (kw "GROUP BY" :: ls)
      (some { c with groupBy? := some ⟨[], .listed keys⟩ }) rest := by
  have hwith := hf.keyword "WITH" (by decide)
  have hpart (isWord : Bool) : Leaves (partGrouping g isWord) none rest := fun last? => by
    simp only [partGrouping, hf.keywordOf ["CUBE", "ROLLUP"] (by decide) last?, run_bind, run_pure,
      Option.bind_some]
  have hsets : Leaves (groupingSets g) none rest := fun last? => by
    simp only [groupingSets, hf.keyword "GROUPING SETS" (by decide) last?, run_bind, run_pure,
      run_ite, Option.bind_some, if_false, Bool.false_eq_true]
  have htotals := hf.reads "TOTALS" [] (by decide)
  have hgroupings : Reads (groupings g) ls (.listed keys) rest := fun last? => by
    have hstep : groupStep g (⟨[], [], [], [], false⟩, false) (.before last? (ls ++ rest)) =
        some (some (⟨keys, [], [], [], false⟩, true), .before (lastOf last? ls) rest) := by
      simp [groupStep, h _, hwith _, hpart _ _, hsets _, htotals _]
    have hend : groupStep g (⟨keys, [], [], [], false⟩, true) (.before (lastOf last? ls) rest) =
        some (none, .before (lastOf last? ls) rest) := rfl
    have hlt : rest.length < (ls ++ rest).length := by
      simpa using List.length_pos_iff.mpr hls
    have hloop := (Steps.single hstep (by simpa using hlt)).iterate_eq hend
    simp [groupings_eq, hloop, Grouping.parts]
  have hall : Leaves (keyword "ALL") false (ls ++ rest) :=
    keyword_leaves _ (by
      rw [Lexeme.head?_append hls]
      exact any_eq_false hhead fun l hl => by simp [hl])
  have hdistinct : Leaves (keyword "DISTINCT") false (ls ++ rest) :=
    keyword_leaves _ (by
      rw [Lexeme.head?_append hls]
      exact any_eq_false hhead fun l hl => by simp [hl])
  have hbody : Reads (groupBy g) ls (.listed keys) rest := fun last? => by
    simp only [groupBy, hall last?, hdistinct last?, hgroupings last?, run_bind, run_pure, run_ite,
      Option.bind_some, if_false, Bool.false_eq_true]
  have hclause := clause_reads (l := kw "GROUP BY") hbody
  intro last?
  have hrun := hclause last?
  rw [List.cons_append] at hrun
  simp only [nextClause, once, hrun, hc, run_bind, run_pure, run_ahead?, Option.bind_some,
    Option.isSome_none, List.cons_append, List.head?_cons, if_false, Bool.false_eq_true,
    Lexeme.lastOf_cons]

/-! ### Limits -/

/-- What stands behind the count of a limit or an offset. -/
theorem limitCount_reads (h : Reads g.term ls (some e) rest) (he : e.bare = e)
    (hop : ∀ left right, e ≠ .binary .remainder left right) :
    Reads (limitCount g) ls (some e) rest := by
  intro last?
  simp only [limitCount, run_bind, run_get, Option.bind_some, attempt, h last?, he]
  cases e with
  | binary op left right =>
    cases op <;> first | exact absurd rfl (hop left right) | rfl
  | _ => rfl

theorem limitOptions_leaves (hf : Follows .clause rest) : Leaves limitOptions [] rest := by
  intro last?
  simp [limitOptions, hf.keyword "PERCENT" (by decide) last?, hf.symbol "%" (by decide) last?,
    hf.keywordOf ["ROW", "ROWS"] (by decide) last?, hf.reads "ONLY" [] (by decide) last?,
    hf.reads "WITH" ["TIES"] (by decide) last?]

theorem limitGroups_leaves (hf : Follows .clause rest) : Leaves (limitGroups g e) e rest := by
  intro last?
  simp [limitGroups, hf.reads "BY" [] (by decide) last?]

theorem nextClause_reads_limit (h : Reads g.term ls (some e) rest) (he : e.bare = e)
    (hop : ∀ left right, e ≠ .binary .remainder left right) (hf : Follows .clause rest)
    (hlimit : c.limit? = none) (hfetch : c.fetch? = none) :
    Reads (nextClause g c) (kw "LIMIT" :: ls) (some { c with limit? := some ⟨[], e⟩ }) rest := by
  have hcomma := hf.symbol "," (by decide)
  intro last?
  simp [nextClause, limitClause, limit, limitCount_reads h he hop _, limitOptions_leaves hf _,
    hcomma _, withWords, limitGroups_leaves hf _, hlimit, hfetch]

theorem offset_reads (h : Reads g.term ls (some e) rest) (hf : Follows .clause rest) :
    Reads (offset g) (kw "OFFSET" :: ls) (some e) rest := by
  intro last?
  simp [offset, required, h _, hf.keywordOf ["ROW", "ROWS"] (by decide) _, limitGroups_leaves hf _]

theorem nextClause_reads_offset (h : Reads g.term ls (some e) rest) (hf : Follows .clause rest)
    (hc : c.offset? = none) :
    Reads (nextClause g c) (kw "OFFSET" :: ls) (some { c with offset? := some e }) rest := by
  have hoffset := offset_reads h hf
  intro last?
  have hrun := hoffset last?
  rw [List.cons_append] at hrun
  simp [nextClause, once, required, hrun, hc]

theorem nextClause_leaves (hf : Follows .clauses rest) : Leaves (nextClause g c) none rest := by
  intro last?
  have hcases : ∀ l ∈ Level.clauses.followers, l = .symbol l.content ∨ l = kw "UNION" ∨
      l = kw "INTERSECT" ∨ l = kw "EXCEPT" := by decide
  rcases rest with _ | ⟨l, rest⟩
  · rfl
  · rcases hcases l (hf.head l rfl) with hl | rfl | rfl | rfl
    · rw [hl]
      rfl
    all_goals simp [nextClause]

/-! ### All clauses -/

theorem laterals_leaves (h : rest.head?.any (·.isKeyword "LATERAL") = false) :
    Leaves (many (lateral g)) [] rest :=
  many_leaves (lateral_leaves h)

theorem joins_leaves (hf : Follows .clauses rest) : Leaves (joins g) [] rest := by
  intro last?
  simp only [joins, run_bind, run_get, Option.bind_some, joinsUpTo]
  exact many_leaves (join_leaves (hf.head_any (by decide))) last?

/-- Behind the clauses of a query, no further ones are read. -/
theorem clauses_leaves (hf : Follows .clauses rest) (q : Query) : Leaves (clauses g q) q rest := by
  intro last?
  have hlateral : Leaves (many (lateral g)) [] rest := laterals_leaves (hf.head_any (by decide))
  have hloop := fun c => iterate_leaves (nextClause_leaves (g := g) (c := c) hf) last?
  simp [clauses, joins_leaves hf last?, hlateral last?, hloop]

/-- The clauses in some lexemes, read one after another, lead from some clauses to others. -/
def Adds (g : Grammar) (c : Clauses) (ls : List Lexeme) (c' : Clauses) (rest : List Lexeme) : Prop :=
  ∀ last?, Steps (nextClause g) c (.before last? (ls ++ rest)) c' (.before (lastOf last? ls) rest)

theorem Adds.refl (c : Clauses) : Adds g c [] c rest :=
  fun _ => Steps.refl ..

theorem Adds.of_reads {c' : Clauses} (h : Reads (nextClause g c) ls (some c') rest) (hls : ls ≠ []) :
    Adds g c ls c' rest := by
  intro last?
  refine .single (h last?) ?_
  simpa using List.length_pos_iff.mpr hls

theorem Adds.trans {c' c'' : Clauses} (h : Adds g c ls c' (ms ++ rest)) (h' : Adds g c' ms c'' rest) :
    Adds g c (ls ++ ms) c'' rest := by
  intro last?
  have hsteps := (h last?).trans (h' _)
  simpa using hsteps

/-- Joins and clauses behind a select become its clauses. -/
theorem clauses_reads {s : Select} {js : List Join} {all : Clauses}
    (hjoins : Reads (joins g) ls js (ms ++ rest))
    (hlateral : (ms ++ rest).head?.any (·.isKeyword "LATERAL") = false)
    (hadds : Adds g { s.clauses with joins := s.clauses.joins ++ js } ms all rest)
    (hempty : ls ++ ms = [] → all = s.clauses) (hf : Follows .clauses rest) :
    Reads (clauses g (.select s)) (ls ++ ms) (.select { s with clauses := all }) rest := by
  intro last?
  have hloop := (hadds (lastOf last? ls)).iterate_eq (nextClause_leaves hf _)
  have hlaterals := laterals_leaves (g := g) hlateral
  simp only [clauses, run_bind, run_get, Option.bind_some, List.append_assoc, hjoins _, hlaterals _,
    clausesOf, List.append_nil, hloop]
  by_cases hnone : ls ++ ms = []
  · obtain ⟨rfl, rfl⟩ := List.append_eq_nil_iff.mp hnone
    simp [hempty rfl]
  · have hlength : rest.length ≠ ls.length + (ms.length + rest.length) := by
      have := List.length_pos_iff.mpr hnone
      rw [List.length_append] at this
      omega
    simp [isTable, withClauses, hlength]

/-! ## Selects -/

theorem source_leaves (h : ls.head?.any (·.isKeyword "FROM") = false) :
    Leaves (source g) none ls := by
  intro last?
  simp [source, keyword_leaves _ h last?]

theorem source_reads {q : Query} (h : Reads (table g) ls (some q) rest)
    (hq : ∀ rows, q ≠ .values rows) : Reads (source g) (kw "FROM" :: ls) (some ⟨[], q⟩) rest := by
  intro last?
  cases q <;> first | exact absurd rfl (hq _) | simp only [source, required, h _, run_bind,
    run_pure, run_ite, run_pending, run_taken, run_keyword, Option.bind_some, List.cons_append,
    List.isEmpty_nil, if_true, beq_self_eq_true, Lexeme.isKeyword_keyword, Lexeme.lastOf_cons]

theorem distinct_leaves (h : ls.head?.any (fun l => l.isKeyword "ALL" || l.isKeyword "DISTINCT") =
    false) : Leaves (distinct g) none ls := by
  intro last?
  have hall := keyword_leaves "ALL" (any_eq_false h fun l hl => by simp [hl])
  have hdistinct := keyword_leaves "DISTINCT" (any_eq_false h fun l hl => by simp [hl])
  simp only [distinct, run_bind, run_second?, Option.bind_some]
  split
  · rfl
  · simp [hall last?, hdistinct last?]

theorem distinct_reads (hne : rest ≠ [])
    (h : rest.head?.any (fun l => l.isSymbol "." || l.isKeyword "ON") = false) :
    Reads (distinct g) [kw "DISTINCT"] (some (.word "DISTINCT")) rest := by
  intro last?
  obtain ⟨l, rest, rfl⟩ := List.exists_cons_of_ne_nil hne
  have hpoint : l.isSymbol "." = false ∧ l.isKeyword "ON" = false := by simpa using h
  simp [distinct, hpoint.1, hpoint.2]

theorem leadingLimit_leaves (h : g.dialect.leadingLimit = true → ls.head?.any (·.reads "TOP") = false) :
    Leaves (leadingLimit g) none ls := by
  intro last?
  cases hd : g.dialect.leadingLimit with
  | false => simp [leadingLimit, hd]
  | true => simp [leadingLimit, hd, reads_leaves (h hd) last?]

theorem reads_top : Reads (reads ["TOP"]) [.word "TOP"] true rest := by
  intro last?
  have htop : (Lexeme.word "TOP").reads "TOP" = true := by decide
  simp [Parser.reads, htop]

theorem leadingLimit_reads_number (hd : g.dialect.leadingLimit = true)
    (h : Reads g.primary ls (some e) rest) (hls : ls ≠ [])
    (hparen : ls.head?.any (·.isSymbol "(") = false) :
    Reads (leadingLimit g) (.word "TOP" :: ls) (some ⟨[], e⟩) rest := by
  intro last?
  have hnone : Leaves (symbol "(") false (ls ++ rest) :=
    symbol_leaves _ (by rwa [Lexeme.head?_append hls])
  simp [leadingLimit, hd, reads_top.one, hnone _, required, h _]

theorem leadingLimit_reads_term (hd : g.dialect.leadingLimit = true)
    (h : Reads g.term ls (some e) (.symbol ")" :: rest)) :
    Reads (leadingLimit g) (.word "TOP" :: .symbol "(" :: (ls ++ [.symbol ")"])) (some ⟨[], e⟩)
      rest := by
  intro last?
  simp [leadingLimit, hd, reads_top.one, required, h _, expectSymbol]

/-- What is read of a select behind its first word, without comments and hints. -/
def selectParts (g : Grammar) : Parser Select := do
  let distinct? ← distinct g
  let words ← selectWords
  let limit? ← leadingLimit g
  let items ← separated g.item
  discard taken
  let into? ← into g
  let source? ← source g
  let s : Select := ⟨none, [], [], distinct?, words, items, into?, source?,
    { ClausesOf.empty with limit? := limit? }⟩
  match ← clauses g (.select s) with
  | .select s => return s
  | _ => return s

theorem select_eq_parts {tokens : String → Option (List Token)} (h : ∀ s, ls.head? ≠ some (.hint s))
    (last? : Option Lexeme) :
    select g tokens none (.before last? ls) = selectParts g (.before last? ls) := by
  rcases ls with _ | ⟨l, ls⟩
  · rfl
  · cases l with
    | hint s => exact absurd rfl (h s)
    | _ => rfl

/-- A select by its parts, behind its first word. -/
theorem select_reads {tokens : String → Option (List Token)} {ds ts is fs cs : List Lexeme}
    {distinct? : Option Expr} {top? : Option (Clause Expr)} {items : List Expr}
    {source? : Option (Clause Query)} {all : Clauses}
    (hdistinct : Reads (distinct g) ds distinct? (ts ++ (is ++ (fs ++ (cs ++ rest)))))
    (htop : Reads (leadingLimit g) ts top? (is ++ (fs ++ (cs ++ rest))))
    (hitems : Reads (separated g.item) is items (fs ++ (cs ++ rest)))
    (hsource : Reads (source g) fs source? (cs ++ rest))
    (hclauses : Reads (clauses g (.select ⟨none, [], [], distinct?, [], items, none, source?,
      { ClausesOf.empty with limit? := top? }⟩)) cs
      (.select ⟨none, [], [], distinct?, [], items, none, source?, all⟩) rest)
    (hhint : ∀ s, (ds ++ (ts ++ (is ++ (fs ++ (cs ++ rest))))).head? ≠ some (.hint s))
    (has : (ts ++ (is ++ (fs ++ (cs ++ rest)))).head?.any (·.isKeyword "AS") = false)
    (hinto : (fs ++ (cs ++ rest)).head?.any (·.isKeyword "INTO") = false) :
    Reads (select g tokens none) (ds ++ (ts ++ (is ++ (fs ++ cs))))
      ⟨none, [], [], distinct?, [], items, none, source?, all⟩ rest := by
  have hwords : Leaves selectWords [] (ts ++ (is ++ (fs ++ (cs ++ rest)))) := fun last? => by
    simp only [selectWords, keyword_leaves _ has last?, run_bind, run_pure, run_ite,
      Option.bind_some, if_false, Bool.false_eq_true]
  have hnone : Leaves (into g) none (fs ++ (cs ++ rest)) := fun last? => by
    simp only [into, keyword_leaves _ hinto last?, run_bind, run_pure, run_ite, run_discard,
      Option.bind_some, if_false, Bool.false_eq_true]
  intro last?
  rw [List.append_assoc, List.append_assoc, List.append_assoc, List.append_assoc,
    select_eq_parts hhint]
  simp only [selectParts, run_bind, run_discard, run_taken, run_pure, Option.bind_some,
    Option.map_some, Lexeme.lastOf_append, hdistinct _, hwords _, htop _, hitems _, hnone _,
    hsource _, hclauses _]

/-! ## Set operations -/

/-- The words that a set operation is printed with. -/
def setPhrases : List (List String) :=
  [["UNION"], ["UNION", "ALL"], ["EXCEPT"], ["EXCEPT", "ALL"], ["INTERSECT"], ["INTERSECT", "ALL"]]

/-- One step behind a query: a set operation and the next query. -/
def setStep (g : Grammar) (left : Query) : Parser (Option Query) := do
  let some (words, comments) ← setWords | return none
  let right ← required (g.query .operand)
  let comments ← if comments.isEmpty then taken else pure comments
  return some (.combined words comments left right)

theorem setOperations_eq (q : Query) :
    setOperations g q = (do return withEnd (← iterate (setStep g) q)) := rfl

/-- The set operations. -/
def setKinds : List String :=
  ["EXCEPT", "INTERSECT", "UNION"]

theorem setPhrases_kinds : ∀ ws ∈ setPhrases, ∃ kind ∈ setKinds, ws = [kind] ∨ ws = [kind, "ALL"] := by
  decide

theorem setWords_reads {ws : List String} (h : ws ∈ setPhrases) :
    Reads setWords (ws.map kw) (some (ws, [])) (kw "SELECT" :: rest) := by
  have hby : Leaves (reads ["BY", "NAME"]) false (kw "SELECT" :: rest) :=
    reads_leaves (by decide : (kw "SELECT").reads "BY" = false)
  have hstrict : Leaves (reads ["STRICT", "CORRESPONDING"]) false (kw "SELECT" :: rest) :=
    reads_leaves (by decide : (kw "SELECT").reads "STRICT" = false)
  have hcorresponding : Leaves (reads ["CORRESPONDING"]) false (kw "SELECT" :: rest) :=
    reads_leaves (by decide : (kw "SELECT").reads "CORRESPONDING" = false)
  have hkinds : ∀ kind ∈ setKinds, ∀ k ∈ joinKinds, (kw kind).isKeyword k = false := by decide
  obtain ⟨kind, hk, hws⟩ := setPhrases_kinds ws h
  have hjoin (more : List Lexeme) : Leaves joinWords ([], []) (kw kind :: more) :=
    joinWords_leaves (hkinds kind hk)
  have hkind (more : List Lexeme) (last? : Option Lexeme) :
      keywordOf ["EXCEPT", "INTERSECT", "UNION"] (.before last? (kw kind :: more)) =
        some (some kind, .before (some (kw kind)) more) :=
    (keywordOf_reads hk kind more).one last?
  intro last?
  rcases hws with rfl | rfl <;>
    simp only [setWords, hjoin _ _, hkind _ _, hby _, hstrict _, hcorresponding _, run_bind,
      run_pure, run_ite, run_get, run_orM, run_pending, run_keyword, Option.bind_some,
      List.append_assoc, List.cons_append, List.nil_append, List.isEmpty_nil, List.map_cons,
      List.map_nil, if_true, if_false, ite_self, Bool.false_eq_true, Bool.false_or, Bool.and_true,
      beq_self_eq_true, String.reduceBEq, Lexeme.isKeyword_keyword, Lexeme.lastOf_cons,
      Lexeme.lastOf_nil]

theorem setStep_reads {ws : List String} {left right : Query} (hws : ws ∈ setPhrases)
    (h : Reads (g.query .operand) (kw "SELECT" :: ls) (some right) rest) :
    Reads (setStep g left) (ws.map kw ++ kw "SELECT" :: ls) (some (.combined ws [] left right))
      rest := by
  intro last?
  have hquery : ∀ last?, g.query .operand (.before last? (kw "SELECT" :: (ls ++ rest))) =
      some (some right, .before (lastOf (some (kw "SELECT")) ls) rest) := h
  simp [setStep, setWords_reads hws _, required, hquery]

/-- What can stand behind a whole query: nothing, or a closing parenthesis. -/
def Closes (rest : List Lexeme) : Prop :=
  rest.head?.all (·.isSymbol ")") = true ∧ ∀ l ∈ rest, l.isTame = true

theorem Closes.follows (h : Closes rest) {level : Level} (hl : .symbol ")" ∈ level.followers) :
    Follows level rest := by
  obtain ⟨hhead, htame⟩ := h
  rcases rest with _ | ⟨l, rest⟩
  · exact .nil level
  · obtain rfl : l = .symbol ")" := Lexeme.isSymbol_iff.mp (by simpa using hhead)
    exact .cons hl (by simp) rfl fun m hm => htame m (by simp [hm])

/-- Behind an argument of a call, there is no set operation. -/
theorem setStep_leaves (h : Follows .argument rest) (q : Query) : Leaves (setStep g q) none rest := by
  have hjoin : Leaves joinWords ([], []) rest :=
    joinWords_leaves fun kind hk => h.head_any (by
      revert kind
      decide)
  have hkind := h.keywordOf ["EXCEPT", "INTERSECT", "UNION"] (by decide)
  have hwords : Leaves setWords none rest := fun last? => by
    simp only [setWords, run_bind, run_get, run_pure, Option.bind_some, hjoin _, hkind _,
      run_retreat_self]
  intro last?
  simp [setStep, hwords last?]

theorem setOperations_leaves (h : Follows .argument rest) {q : Query} (hq : withEnd q = q) :
    Leaves (setOperations g q) q rest := by
  intro last?
  simp [setOperations_eq, iterate_leaves (setStep_leaves (g := g) h q) last?, hq]

/-! ## Queries -/

theorem withTables_leaves (h : ls.head?.any (·.isKeyword "WITH") = false) :
    Leaves (withTables g) none ls := by
  intro last?
  simp [withTables, keyword_leaves _ h last?]

theorem leadingSource_leaves (h : ls.head?.any (·.isKeyword "FROM") = false) :
    Leaves (leadingSource g) none ls := by
  intro last?
  simp [leadingSource, source_leaves h last?]

section

variable {tokens : String → Option (List Token)}

/-- Where neither of the first words of a query nor a parenthesis stands, no query is read. -/
theorem query_leaves {place : QueryPlace} (htame : ∀ l ∈ ls, l.isTame = true)
    (hhead : ls.head?.any (fun l => ["WITH", "FROM", "SELECT"].any l.isKeyword) = false)
    (hparen : place = .alone ∨ ls.head?.any (·.isSymbol "(") = false) :
    Leaves (query g tokens place) none ls := by
  have hwith : Leaves (withTables g) none ls :=
    withTables_leaves (any_eq_false hhead fun l hl => by simp [hl])
  have hfrom : Leaves (leadingSource g) none ls :=
    leadingSource_leaves (any_eq_false hhead fun l hl => by simp [hl])
  have hselect : Leaves (keyword "SELECT") false ls :=
    keyword_leaves _ (any_eq_false hhead fun l hl => by simp [hl])
  intro last?
  rcases hparen with rfl | hparen
  · simp [query, hwith last?, hfrom last?, hselect last?, values_leaves htame last?]
  · simp [query, hwith last?, hfrom last?, hselect last?, symbol_leaves _ hparen last?,
      values_leaves htame last?]

theorem query_reads_operand {s : Select} (h : Reads (select g tokens none) ls s rest) :
    Reads (query g tokens .operand) (kw "SELECT" :: ls) (some (.select s)) rest := by
  have hwith : Leaves (withTables g) none (kw "SELECT" :: (ls ++ rest)) := withTables_leaves rfl
  have hfrom : Leaves (leadingSource g) none (kw "SELECT" :: (ls ++ rest)) :=
    leadingSource_leaves rfl
  intro last?
  simp [query, hwith last?, hfrom last?, h _]

/-- A select behind its first word, as a query. -/
def selectQuery (g : Grammar) (tokens : String → Option (List Token)) : Parser Query :=
  return .select (← select g tokens none)

/-- A select and the set operations behind it are a query. -/
theorem query_reads {q : Query} {place : QueryPlace} (hplace : place ≠ .operand)
    (h : Reaches (selectQuery g tokens) (setStep g) ls q rest) (hrest : Closes rest) :
    Reads (query g tokens place) (kw "SELECT" :: ls) (some (withEnd q)) rest := by
  have hwith : Leaves (withTables g) none (kw "SELECT" :: (ls ++ rest)) := withTables_leaves rfl
  have hfrom : Leaves (leadingSource g) none (kw "SELECT" :: (ls ++ rest)) :=
    leadingSource_leaves rfl
  intro last?
  obtain ⟨q₀, c, hselect, hsteps⟩ := h (some (kw "SELECT"))
  obtain ⟨s, hs, rfl⟩ : ∃ s, select g tokens none (.before (some (kw "SELECT")) (ls ++ rest)) =
      some (s, c) ∧ q₀ = .select s := by
    simp only [selectQuery, run_bind] at hselect
    cases hrun : select g tokens none (.before (some (kw "SELECT")) (ls ++ rest)) with
    | none => simp [hrun] at hselect
    | some r =>
      obtain ⟨s, c'⟩ := r
      simp only [hrun, Option.bind_some, run_pure, Option.some.injEq, Prod.mk.injEq] at hselect
      exact ⟨s, by rw [hselect.2], hselect.1.symm⟩
  have hloop := hsteps.iterate_eq (setStep_leaves (hrest.follows (by decide)) q _)
  simp [query, hwith last?, hfrom last?, hs, hplace, setOperations_eq, hloop]

/-- A query between parentheses in the place of a table, perhaps with an alias. -/
theorem query_reads_nested {q q' : Query} (h : Reads (table g) ls (some q) (.symbol ")" :: (ms ++ rest)))
    (hend : withEnd q = q) (ha : AliasOf ms (.nested q) q')
    (hhead : ls.head?.any (·.isKeyword "FROM") = false) (hls : ls ≠ []) (hf : Follows .table rest)
    (htame : ∀ l ∈ ms ++ rest, l.isTame = true) :
    Reads (query g tokens .source) (.symbol "(" :: (ls ++ .symbol ")" :: ms)) (some q') rest := by
  have hcloses : Closes (.symbol ")" :: (ms ++ rest)) :=
    ⟨rfl, List.forall_mem_cons.mpr ⟨rfl, htame⟩⟩
  have hsource : Leaves (source g) none (ls ++ .symbol ")" :: (ms ++ rest)) :=
    source_leaves (by rwa [Lexeme.head?_append hls])
  have hset := setOperations_leaves (g := g) (hcloses.follows (by decide)) hend
  have hclauses := clauses_leaves (g := g) (hcloses.follows (by decide)) q
  have hinner : Reads (inner g tokens true) ls q (.symbol ")" :: (ms ++ rest)) := fun last? => by
    simp [inner, hsource _, required, h _, hset _, hclauses _]
  have hwith : Leaves (withTables g) none (.symbol "(" :: (ls ++ .symbol ")" :: (ms ++ rest))) :=
    withTables_leaves rfl
  have hfrom : Leaves (leadingSource g) none
      (.symbol "(" :: (ls ++ .symbol ")" :: (ms ++ rest))) :=
    leadingSource_leaves rfl
  intro last?
  simp [query, hwith last?, hfrom last?, nested, hinner _, expectSymbol, named_reads ha rfl hf _,
    sampled_leaves hf _, Query.annotated]

/-! ## Statements -/

/-- A query as a statement. -/
theorem statement_reads {l : Lexeme} {q : Query} (hl : l = kw "SELECT" ∨ l = kw "WITH")
    (hitem : Leaves g.item none (l :: (ls ++ rest)))
    (h : Reads (g.query .alone) (l :: ls) (some q) rest) (hrest : Closes rest) :
    Reads (statement g) (l :: ls) (some q) rest := by
  have hclauses := clauses_leaves (g := g) (hrest.follows (by decide)) q
  have hnone (kind : String) (hk : kind ∈ ["INSERT", "DELETE", "UPDATE"]) :
      l.isKeyword kind = false := by
    rcases hl with rfl | rfl <;> revert kind <;> decide
  have hquery (last? : Option Lexeme) : g.query .alone (.before last? (l :: (ls ++ rest))) =
      some (some q, .before (lastOf (some l) ls) rest) := h last?
  intro last?
  simp [statement, hnone, hitem last?, hquery, hclauses _]

/-! ## Named queries -/

theorem aliasColumn_reads {l : Lexeme} {n : Name} (hn : l.asName? = some n)
    (hl : l.isNoName = false) (htype : Leaves (g.type false) none rest)
    (hf : Follows .argument rest) : Reads (aliasColumn g) [l] (some (.name n)) rest := by
  have hname : Reads (certainName g) [l] (some (.name n)) rest := nameWhere_reads hn (by simp [hl])
  intro last?
  simp [aliasColumn, hname.one, hf.keyword "AS" (by decide) _, htype _]

/-- The columns of a named query, if they are given, and its name with them. -/
inductive ColumnsOf (g : Grammar) (n : Name) (rest : List Lexeme) : List Lexeme → Expr → Prop
  | none : ColumnsOf g n rest [] (.name n)
  | some {es : List Expr} {ls : List Lexeme} (hes : es ≠ [])
    (h : Reads (separated (aliasColumn g)) ls es (.symbol ")" :: rest)) :
    ColumnsOf g n rest (.symbol "(" :: (ls ++ [.symbol ")"])) (.call n es)

/-- The name of a named query, perhaps with columns. -/
theorem tableName_reads {l : Lexeme} {n : Name} (hn : l.asName? = some n)
    (hl : l.namesSource = true)
    (hlimit : l.isKeyword "LIMIT" = false ∧ l.isKeyword "OFFSET" = false)
    (h : ColumnsOf g n (kw "AS" :: rest) ls e) :
    Reads (tableAliasWhere g Keyword.isName) (l :: ls) (some e) (kw "AS" :: rest) := by
  simp only [Lexeme.namesSource, Bool.and_eq_true, Bool.not_eq_true'] at hl
  have hallowed : (l.beginsIdentifier || false && !l.isNoName || isWordOf Keyword.isName l) = true := by
    cases l with
    | quoted s => rfl
    | word s => rfl
    | keyword kind s => simpa [Lexeme.beginsIdentifier] using hl.1
    | _ => cases hn
  have hbegins (ms : List Lexeme) : Leaves (beginsLimit g) false (l :: ms) := fun last? => by
    rw [beginsLimit_leaves (by simpa using hlimit.2) last?]
    simp [hlimit.1]
  have has (ms : List Lexeme) : Leaves (keyword "AS") false (l :: ms) := by
    refine keyword_leaves _ ?_
    cases l with
    | keyword kind s =>
      have hkind : Keyword.isName kind = true := by simpa [isWordOf] using hl.1
      simp only [List.head?_cons, Option.any_some, Lexeme.isKeyword_keyword, beq_eq_false_iff_ne]
      rintro rfl
      revert hkind
      decide
    | _ => rfl
  have hname (ms : List Lexeme) : Reads (nameWhere g false Keyword.isName) [l] (some (.name n)) ms :=
    nameWhere_reads hn hallowed
  intro last?
  cases h with
  | none =>
    have hnone : Leaves (aliasColumns g) [] (kw "AS" :: rest) := aliasColumns_leaves rfl
    simp [tableAliasWhere, hbegins _ _, has _ _, (hname _).one, hnone _, withColumns, bare_name,
      comments_name, annotated_nil]
  | some hes hread =>
    simp [tableAliasWhere, hbegins _ _, has _ _, (hname _).one, aliasColumns, hread _, hes,
      expectSymbol, withColumns, bare_name, comments_name, annotated_nil]

/-- Whether a query is listed rows, perhaps under a name. -/
def isRows : Query → Bool
  | .values _ | .aliased (.nested (.values _)) _ => true
  | _ => false

theorem commonTable_reads {l : Lexeme} {n : Name} {q : Query} (hn : l.asName? = some n)
    (hl : l.namesSource = true)
    (hlimit : l.isKeyword "LIMIT" = false ∧ l.isKeyword "OFFSET" = false)
    (hname : ColumnsOf g n (kw "AS" :: .symbol "(" :: (ms ++ .symbol ")" :: rest)) ls e)
    (hq : Reads g.statement ms (some q) (.symbol ")" :: rest)) (hrows : isRows q = false) :
    Reads (commonTable g) (l :: (ls ++ kw "AS" :: .symbol "(" :: (ms ++ [.symbol ")"])))
      (some ⟨e, [], q⟩) rest := by
  have hread := tableName_reads hn hl hlimit hname
  have hnot : Leaves (reads ["NOT", "MATERIALIZED"]) false (.symbol "(" :: (ms ++ .symbol ")" :: rest)) :=
    reads_leaves (by decide : (Lexeme.symbol "(").reads "NOT" = false)
  have hmaterialized : Leaves (reads ["MATERIALIZED"]) false
      (.symbol "(" :: (ms ++ .symbol ")" :: rest)) :=
    reads_leaves (by decide : (Lexeme.symbol "(").reads "MATERIALIZED" = false)
  intro last?
  have hrun := hread last?
  rw [List.cons_append] at hrun
  simp only [commonTable, hrun, hnot _, hmaterialized _, wrapped, expectSymbol, required, hq _,
    annotated_nil, run_bind, run_pure, run_ite, run_failure, run_pending, run_taken, run_keyword,
    run_symbol, Option.bind_some, List.append_assoc, List.cons_append, List.nil_append,
    List.isEmpty_nil, if_true, if_false, ite_self, Bool.false_eq_true, beq_self_eq_true,
    Lexeme.isKeyword_keyword, Lexeme.isSymbol_symbol, Lexeme.lastOf_append, Lexeme.lastOf_cons,
    Lexeme.lastOf_nil, annotated_nil]
  split
  · cases hrows
  · cases hrows
  · rfl

/-- One step among named queries; the second component tells whether they are all read. -/
def tableStep (g : Grammar) (found : List (CommonTable Expr Query) × Bool) :
    Parser (Option (List (CommonTable Expr Query) × Bool)) := do
  if found.2 then return none
  let comments ← if found.1.isEmpty then pure [] else pending
  let some t ← commonTable g | failure
  let tables := found.1 ++ [{ t with name := t.name.annotated comments }]
  let isNext ← symbol "," <||> keyword "WITH"
  if isNext then discard <| keyword "WITH"
  return some (tables, !isNext)

theorem commonTables_eq : commonTables g = (do
    let (tables, _) ← iterate (tableStep g) ([], false)
    return tables) := rfl

/-- The last named query, which neither a comma nor another `WITH` follows. -/
theorem tableStep_last {t : CommonTable Expr Query} (h : Reads (commonTable g) ls (some t) rest)
    (hrest : rest.head?.any (fun l => l.isSymbol "," || l.isKeyword "WITH") = false)
    (before : List (CommonTable Expr Query)) :
    Reads (tableStep g (before, false)) ls (some (before ++ [t], true)) rest := by
  intro last?
  have hcomma := symbol_leaves "," (any_eq_false hrest fun l hl => by simp [hl])
  have hword := keyword_leaves "WITH" (any_eq_false hrest fun l hl => by simp [hl])
  simp [tableStep, h _, hcomma _, hword _, annotated_nil]

/-- A named query with a comma behind it. -/
theorem tableStep_next {t : CommonTable Expr Query}
    (h : Reads (commonTable g) ls (some t) (.symbol "," :: rest))
    (hrest : rest.head?.any (·.isKeyword "WITH") = false)
    (before : List (CommonTable Expr Query)) :
    Reads (tableStep g (before, false)) (ls ++ [.symbol ","]) (some (before ++ [t], false)) rest := by
  intro last?
  simp [tableStep, h _, keyword_leaves _ hrest _, annotated_nil]

/-- Named queries between commas, one step for each. -/
theorem tableStep_steps {phrase : CommonTable Expr Query → List Lexeme}
    {tables : List (CommonTable Expr Query)} (hne : tables ≠ [])
    (hread : ∀ t ∈ tables, ∀ rest, (∀ l ∈ rest, l.isTame = true) →
      Reads (commonTable g) (phrase t) (some t) rest)
    (htame : ∀ t ∈ tables, ∀ l ∈ phrase t, l.isTame = true)
    (hwith : ∀ t ∈ tables, (phrase t).head?.any (·.isKeyword "WITH") = false)
    (hphrase : ∀ t ∈ tables, phrase t ≠ [])
    (hrest : rest.head?.any (fun l => l.isSymbol "," || l.isKeyword "WITH") = false)
    (htameRest : ∀ l ∈ rest, l.isTame = true) (before : List (CommonTable Expr Query))
    (last? : Option Lexeme) :
    Steps (tableStep g) (before, false)
      (.before last? (Lexeme.commas (tables.map phrase) ++ rest)) (before ++ tables, true)
      (.before (lastOf last? (Lexeme.commas (tables.map phrase))) rest) := by
  induction tables generalizing before last? with
  | nil => exact absurd rfl hne
  | cons t tables ih =>
    obtain ⟨hreadT, hreadMore⟩ := List.forall_mem_cons.mp hread
    obtain ⟨-, htameMore⟩ := List.forall_mem_cons.mp htame
    obtain ⟨-, hwithMore⟩ := List.forall_mem_cons.mp hwith
    obtain ⟨hphraseT, hphraseMore⟩ := List.forall_mem_cons.mp hphrase
    have hpos := List.length_pos_iff.mpr hphraseT
    cases tables with
    | nil =>
      exact .single (tableStep_last (hreadT rest htameRest) hrest before last?)
        (by simpa [Lexeme.commas] using hpos)
    | cons t' tables =>
      have hmore : ∀ l ∈ Lexeme.commas ((t' :: tables).map phrase) ++ rest, l.isTame = true := by
        intro l hl
        rcases List.mem_append.mp hl with hl | hl
        · refine Lexeme.tame_commas (fun ls hls => ?_) l hl
          obtain ⟨t, ht, rfl⟩ := List.mem_map.mp hls
          exact htameMore t ht
        · exact htameRest l hl
      have hhead : (Lexeme.commas ((t' :: tables).map phrase) ++ rest).head? = (phrase t').head? := by
        have hne' := hphraseMore t' (by simp)
        cases tables <;> simp [Lexeme.commas, List.append_assoc, Lexeme.head?_append hne']
      have hstep := tableStep_next (hreadT _ (List.forall_mem_cons.mpr ⟨rfl, hmore⟩))
        (by rw [hhead]; exact hwithMore t' (by simp)) before last?
      have hsteps := ih (List.cons_ne_nil _ _) hreadMore htameMore hwithMore hphraseMore
        (before ++ [t]) (some (.symbol ","))
      refine .head (by simpa [Lexeme.commas] using hstep) ?_ (by simpa [Lexeme.commas] using hsteps)
      simp [Lexeme.commas]
      omega

/-- Named queries between commas. -/
theorem commonTables_reads {phrase : CommonTable Expr Query → List Lexeme}
    {tables : List (CommonTable Expr Query)} (hne : tables ≠ [])
    (hread : ∀ t ∈ tables, ∀ rest, (∀ l ∈ rest, l.isTame = true) →
      Reads (commonTable g) (phrase t) (some t) rest)
    (htame : ∀ t ∈ tables, ∀ l ∈ phrase t, l.isTame = true)
    (hwith : ∀ t ∈ tables, (phrase t).head?.any (·.isKeyword "WITH") = false)
    (hphrase : ∀ t ∈ tables, phrase t ≠ [])
    (hrest : rest.head?.any (fun l => l.isSymbol "," || l.isKeyword "WITH") = false)
    (htameRest : ∀ l ∈ rest, l.isTame = true) :
    Reads (commonTables g) (Lexeme.commas (tables.map phrase)) tables rest := by
  intro last?
  have hsteps := tableStep_steps hne hread htame hwith hphrase hrest htameRest [] last?
  simp [commonTables_eq, hsteps.iterate_eq rfl]

theorem withTables_reads {isRecursive : Bool} {tables : List (CommonTable Expr Query)}
    (h : Reads (commonTables g) ls tables rest) (hls : ls ≠ [])
    (hhead : ls.head?.any (·.isKeyword "RECURSIVE") = false) :
    Reads (withTables g) (kw "WITH" :: ((if isRecursive then [kw "RECURSIVE"] else []) ++ ls))
      (some ⟨[], isRecursive, tables⟩) rest := by
  intro last?
  have hnone : Leaves (keyword "RECURSIVE") false (ls ++ rest) :=
    keyword_leaves _ (by rwa [Lexeme.head?_append hls])
  cases isRecursive <;> simp [withTables, hnone _, h _]

/-- A query with named queries in front of it. -/
theorem query_reads_with {w : With Expr Query} {q q' : Query} {place : QueryPlace}
    (hw : Reads (withTables g) (kw "WITH" :: ls) (some w) (ms ++ rest))
    (hq : Reads g.statement ms (some q) rest) (hwith : withNamed w q = some q') :
    Reads (query g tokens place) (kw "WITH" :: (ls ++ ms)) (some q') rest := by
  intro last?
  have hrun := hw last?
  simp only [List.cons_append] at hrun
  simp [query, hrun, required, hq _, hwith]

end

end Parser

end QueryBook.Sql
