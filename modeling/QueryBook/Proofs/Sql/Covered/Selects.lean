import QueryBook.Proofs.Sql.Covered.Tables

/-!
# Reading selects

A select is read part by part: the words in front, its projected expressions, its sources, and its
clauses in their order, each of which adds to the clauses that have been read.
-/

namespace QueryBook.Sql

open QueryBook.Sql.Parser
open Lexeme (kw)

variable {d : Dialect} {tokens : String → Option (List Token)} {e : Expr} {rest : List Lexeme}
  {m : ℕ} {o : Outline}

/-! ## Parts of a select -/

/-- A property of the trees that a select is made of. -/
structure Outline.Parts (P : Node → Prop) (o : Outline) : Prop where
  items : ∀ e ∈ o.items, P (.item e)
  tables : ∀ q ∈ o.from?, P (.table q)
  joins : ∀ j ∈ o.joins, P (.join j)
  condition : ∀ e ∈ o.where?, P (.expr .disjunction e)
  groups : ∀ e ∈ o.groups, P (.expr .disjunction e)
  having : ∀ e ∈ o.having?, P (.expr .disjunction e)
  keys : ∀ e ∈ o.keys, P (.key e)
  limit : ∀ e ∈ o.limit?, P (.expr .term e)
  offset : ∀ e ∈ o.offset?, P (.expr .term e)

/-- The reader for a tree finds it, from a depth of the grammar on. -/
def Node.ReadsFrom (d : Dialect) (tokens : String → Option (List Token)) (m : ℕ) (node : Node) :
    Prop :=
  ∀ n ≥ m, node.Reads d tokens (.ofDepth d tokens n)

/-! ## Clauses behind one another -/

/-- The lexemes of some clauses, each behind its word. -/
def clauseLexemes (d : Dialect) (ws : List (String × Option Expr)) : List Lexeme :=
  ws.flatMap fun w => Lexeme.behind d w.1 w.2

/-- The words of the clauses. -/
def clauseWords : List String :=
  ["WHERE", "GROUP BY", "HAVING", "ORDER BY", "LIMIT", "OFFSET"]

theorem clauseLexemes_append (ws ws' : List (String × Option Expr)) :
    clauseLexemes d (ws ++ ws') = clauseLexemes d ws ++ clauseLexemes d ws' :=
  List.flatMap_append

theorem ofWord_clauseWord {w : String} (hw : w ∈ clauseWords) : Lexeme.ofWord w = kw w :=
  Lexeme.ofWord_grammar w ((by decide : clauseWords ⊆ Lexeme.grammarWords) hw)

theorem lexemes_partsBehind (w : String) (e? : Option Expr) :
    Layout.lexemes (partsBehind d [w] e?) = Lexeme.behind d w e? := by
  cases e? with
  | none => simp [partsBehind, Lexeme.behind]
  | some e => simp [partsBehind, Lexeme.behind, Expr.lexemes]

theorem Outline.lexemes_endingsParts :
    Layout.lexemes (o.endingsParts d) = clauseLexemes d (o.endings d) := by
  rw [Outline.endingsParts, clauseLexemes, Layout.lexemes, List.flatMap_assoc]
  exact List.flatMap_congr fun w _ => lexemes_partsBehind w.1 w.2

/-- Clauses, or what stands behind them if there are none, follow what their words follow. -/
theorem Follows.clauseLexemes {level : Level} {ws : List (String × Option Expr)}
    (hws : ∀ w ∈ ws, w.1 ∈ clauseWords ∧ kw w.1 ∈ level.followers)
    (hs : ∀ w ∈ ws, ∀ e ∈ w.2, ∀ l ∈ e.lexemes d, l.isTame = true)
    (htame : ∀ l ∈ rest, l.isTame = true)
    (hrest : Sql.clauseLexemes d ws = [] → Follows level rest) :
    Follows level (Sql.clauseLexemes d ws ++ rest) := by
  induction ws with
  | nil => exact hrest rfl
  | cons w ws ih =>
    obtain ⟨⟨hword, hfollow⟩, hws'⟩ := List.forall_mem_cons.mp hws
    obtain ⟨hexpr, hs'⟩ := List.forall_mem_cons.mp hs
    obtain ⟨w, e?⟩ := w
    cases e? with
    | none => exact ih hws' hs' hrest
    | some e =>
      have hall : ∀ w ∈ clauseWords, (kw w).isTame = true := by decide
      have hmore : ∀ l ∈ Sql.clauseLexemes d ws, l.isTame = true := by
        intro l hl
        obtain ⟨⟨w', e'?⟩, hw', hl⟩ := List.mem_flatMap.mp hl
        cases e'? with
        | none => cases hl
        | some e' =>
          rcases List.mem_cons.mp hl with rfl | hl
          · rw [ofWord_clauseWord (hws' _ hw').1]
            exact hall _ (hws' _ hw').1
          · exact hs' _ hw' e' rfl l hl
      have heq : Sql.clauseLexemes d ((w, some e) :: ws) ++ rest =
          kw w :: (e.lexemes d ++ (Sql.clauseLexemes d ws ++ rest)) := by
        simp [Sql.clauseLexemes, Lexeme.behind, ofWord_clauseWord hword]
      rw [heq]
      exact .mark hfollow (by simp) (hall w hword)
        (tame_append (hexpr e rfl) (tame_append hmore htame))

/-- A clause behind its word, if there is one, adds to the clauses that have been read. -/
theorem Parser.Adds.behind {g : Grammar} {w : String} {e? : Option Expr} {c c' : Clauses}
    (hw : w ∈ clauseWords) (hnone : e? = none → c' = c)
    (hsome : ∀ e, e? = some e →
      Parser.Reads (nextClause g c) (kw w :: e.lexemes d) (some c') rest) :
    Adds g c (Lexeme.behind d w e?) c' rest := by
  cases e? with
  | none =>
    rw [hnone rfl]
    exact .refl c
  | some e =>
    rw [Lexeme.behind, ofWord_clauseWord hw]
    exact .of_reads (hsome e rfl) (List.cons_ne_nil _ _)

/-- Where no lexeme is read, nothing is added. -/
theorem Parser.Adds.eq_of_nil {g : Grammar} {c c' : Clauses} (h : Adds g c [] c' rest) : c' = c := by
  have hsteps := h none
  cases hsteps with
  | refl => rfl
  | head hstep hlt hmore =>
    exact absurd hmore.length_le (by simpa using hlt)

/-- What follows a select follows its projected expressions, but for a set operation that leaves
rows out. -/
theorem Follows.ofClauses (hf : Follows .clauses rest) (hnot : rest.head? ≠ some (kw "EXCEPT")) :
    Follows .item rest where
  head l hl := by
    have hmem := hf.head l hl
    have hall : ∀ l ∈ Level.closing, l = kw "EXCEPT" ∨ l ∈ Level.item.followers := by decide
    exact (hall l hmem).resolve_left fun heq => hnot (heq ▸ hl)
  single := hf.single
  tame := hf.tame

/-! ## The clauses of a select -/

/-- The expressions of the clauses are made of tame lexemes. -/
theorem Outline.Parts.endings_tame (hs : o.Parts (Node.Shape d)) :
    ∀ w ∈ o.endings d, ∀ e ∈ w.2, ∀ l ∈ e.lexemes d, l.isTame = true := by
  have hlisted {es : List Expr} (hes : ∀ x ∈ es, x.Shape d) :
      ∀ e ∈ Outline.listed? es, ∀ l ∈ e.lexemes d, l.isTame = true := by
    cases es with
    | nil => exact fun _ he => by cases he
    | cons x es =>
      rintro _ ⟨⟩
      rw [Expr.lexemes_listed]
      exact tame_exprs hes
  have hlimit : ∀ e ∈ (if d.leadingLimit then none else o.limit?),
      ∀ l ∈ e.lexemes d, l.isTame = true := by
    split
    · exact fun _ he => by cases he
    · exact fun e he => (hs.limit e he).1.tame
  simp only [Outline.endings, List.forall_mem_cons]
  exact ⟨fun e he => (hs.condition e he).1.tame, hlisted fun x hx => (hs.groups x hx).1,
    fun e he => (hs.having e he).1.tame, hlisted hs.keys, hlimit,
    fun e he => (hs.offset e he).1.tame, List.forall_mem_nil _⟩

/-- The clauses before any of those behind the sources has been read. -/
def Outline.opening (d : Dialect) (o : Outline) : Clauses :=
  { ClausesOf.empty with
    joins := o.joins
    limit? := if d.leadingLimit then o.limit?.map Outline.clause else none }

/-- A list of expressions as the expression of a clause. -/
theorem Outline.listed?_eq_some {es : List Expr} (h : Outline.listed? es = some e) :
    es ≠ [] ∧ e = .listed es ∧ e.lexemes d = Lexeme.commas (es.map (Expr.lexemes d)) := by
  cases es with
  | nil => cases h
  | cons x es =>
    cases h
    exact ⟨List.cons_ne_nil _ _, rfl, Expr.lexemes_listed d _⟩

theorem Outline.endings_words : ∀ w ∈ o.endings d,
    w.1 ∈ clauseWords ∧ kw w.1 ∈ Level.clause.followers := by
  simp only [Outline.endings, List.forall_mem_cons]
  refine ⟨?_, ?_, ?_, ?_, ?_, ?_, List.forall_mem_nil _⟩ <;> decide

/-- What is left of the clauses follows each of them. -/
theorem Outline.Parts.follows (hs : o.Parts (Node.Shape d)) (hf : Follows .clauses rest) (i : ℕ) :
    Follows .clause (clauseLexemes d ((o.endings d).drop i) ++ rest) :=
  .clauseLexemes (fun w hw => Outline.endings_words w (List.mem_of_mem_drop hw))
    (fun w hw => hs.endings_tame w (List.mem_of_mem_drop hw)) hf.tame
    fun _ => hf.mono (List.subset_def.mpr (by decide))

section

variable (hs : o.Parts (Node.Shape d)) (h : o.Parts (Node.ReadsFrom d tokens m))
include hs h

/-- The keys of groups behind their words. -/
theorem Outline.Parts.reads_groups {c : Clauses} (hgrouping : ∀ e ∈ o.groups,
      (e.lexemes d).head?.any (fun l => l.isKeyword "CUBE" || l.isKeyword "ROLLUP") = false)
    (hne : o.groups ≠ []) (hc : c.groupBy? = none) (hf : Follows .clause rest) :
    Parser.Reads (nextClause (.ofDepth d tokens (m + 1)) c)
      (kw "GROUP BY" :: Lexeme.commas (o.groups.map (Expr.lexemes d)))
      (some { c with groupBy? := some ⟨[], .listed o.groups⟩ }) rest := by
  have hkey (x : Expr) (hx : x ∈ o.groups) (rest : List Lexeme) (hf : Follows .disjunction rest) :
      Parser.Reads (groupKey (.ofDepth d tokens (m + 1))) (x.lexemes d) (some x) rest := by
    refine groupKey_reads ((h.groups x hx m le_rfl).condition hf) ?_
    rw [Lexeme.head?_append (hs.groups x hx).1.lexemes_ne_nil]
    exact hgrouping x hx
  have hkeys := separated_exprs (by decide) hne (fun x hx => (hs.groups x hx).1) hkey
    (hf.condition rfl) (hf.head_any (by decide))
  obtain ⟨x, more, hgroups⟩ := List.exists_cons_of_ne_nil hne
  have hhead : (Lexeme.commas (o.groups.map (Expr.lexemes d)) ++ []).head?.any
      Lexeme.beginsExpr = true := by
    rw [hgroups]
    exact (hs.groups x (by simp [hgroups])).1.head_commas []
  rw [List.append_nil] at hhead
  refine nextClause_reads_group (fun hnil => ?_) hkeys ?_ hf hc
  · simp [hnil] at hhead
  · exact any_eq_false (head_not_keyword hhead (List.subset_def.mpr (by decide :
      ∀ kind ∈ ["ALL", "DISTINCT"], kind ∈ Lexeme.foreignWords))) fun l hl => by simpa using hl

/-! Each clause that the select has is read behind its word, whatever other clauses have been read. -/

section

variable {c : Clauses}

omit hs in
theorem Outline.Parts.adds_condition (hc : c.where? = none) (hf : Follows .clause rest) :
    Adds (.ofDepth d tokens (m + 1)) c (Lexeme.behind d "WHERE" o.where?)
      { c with where? := o.where?.map Outline.clause } rest := by
  refine .behind (by decide) (fun hnone => by rw [hnone, Option.map_none, ← hc]) fun e he => ?_
  rw [he]
  exact nextClause_reads_where ((h.condition e he m le_rfl).condition (hf.condition rfl)) hc

theorem Outline.Parts.adds_groups (hgrouping : ∀ e ∈ o.groups,
      (e.lexemes d).head?.any (fun l => l.isKeyword "CUBE" || l.isKeyword "ROLLUP") = false)
    (hc : c.groupBy? = none) (hf : Follows .clause rest) :
    Adds (.ofDepth d tokens (m + 1)) c (Lexeme.behind d "GROUP BY" (Outline.listed? o.groups))
      { c with groupBy? := (Outline.listed? o.groups).map Outline.clause } rest := by
  refine .behind (by decide) (fun hnone => by rw [hnone, Option.map_none, ← hc]) fun e he => ?_
  obtain ⟨hne, rfl, hlexemes⟩ := Outline.listed?_eq_some (d := d) he
  rw [he, hlexemes]
  exact Outline.Parts.reads_groups hs h hgrouping hne hc hf

omit hs in
theorem Outline.Parts.adds_having (hc : c.having? = none) (hf : Follows .clause rest) :
    Adds (.ofDepth d tokens (m + 1)) c (Lexeme.behind d "HAVING" o.having?)
      { c with having? := o.having?.map Outline.clause } rest := by
  refine .behind (by decide) (fun hnone => by rw [hnone, Option.map_none, ← hc]) fun e he => ?_
  rw [he]
  exact nextClause_reads_having ((h.having e he m le_rfl).condition (hf.condition rfl)) hc

theorem Outline.Parts.adds_keys (hc : c.orderBy? = none) (hf : Follows .key rest)
    (hend : rest.head?.any (·.isSymbol ",") = false) :
    Adds (.ofDepth d tokens (m + 1)) c (Lexeme.behind d "ORDER BY" (Outline.listed? o.keys))
      { c with orderBy? := (Outline.listed? o.keys).map Outline.clause } rest := by
  refine .behind (by decide) (fun hnone => by rw [hnone, Option.map_none, ← hc]) fun e he => ?_
  obtain ⟨hne, rfl, hlexemes⟩ := Outline.listed?_eq_some (d := d) he
  rw [he, hlexemes]
  exact nextClause_reads_order hne (separated_exprs (by decide) hne hs.keys
    (fun x hx rest hf => h.keys x hx (m + 1) (Nat.le_succ m) rest hf) hf hend) hc

/-- A limit behind the sources, unless it has been read before them. -/
theorem Outline.Parts.adds_limit (hcount : ∀ e ∈ o.limit?, e.isRemainder = false)
    (hc : c.limit? = if d.leadingLimit then o.limit?.map Outline.clause else none)
    (hfetch : c.fetch? = none) (hf : Follows .clause rest) :
    Adds (.ofDepth d tokens (m + 1)) c
      (Lexeme.behind d "LIMIT" (if d.leadingLimit then none else o.limit?))
      { c with limit? := o.limit?.map Outline.clause } rest := by
  refine .behind (by decide) (fun hnone => ?absent) fun e he => ?present
  case absent =>
    have hread : o.limit?.map Outline.clause = c.limit? := by
      cases hled : d.leadingLimit <;> simp_all
    rw [hread]
  case present =>
    obtain ⟨hled, he⟩ : d.leadingLimit = false ∧ o.limit? = some e := by
      cases hled : d.leadingLimit <;> simp_all
    have hnone : c.limit? = none := by simp [hc, hled]
    rw [he]
    refine nextClause_reads_limit ((h.limit e he m le_rfl).reader (by decide)
      ((hf.condition rfl).below (by decide) (by decide))) (hs.limit e he).1.bare
      (fun left right heq => ?_) hf hnone hfetch
    have hnot := hcount e he
    rw [heq] at hnot
    cases hnot

omit hs in
theorem Outline.Parts.adds_offset (hc : c.offset? = none) (hf : Follows .clause rest) :
    Adds (.ofDepth d tokens (m + 1)) c (Lexeme.behind d "OFFSET" o.offset?)
      { c with offset? := o.offset? } rest := by
  refine .behind (by decide) (fun hnone => by rw [hnone, ← hc]) fun e he => ?_
  rw [he]
  exact nextClause_reads_offset ((h.offset e he m le_rfl).reader (by decide)
    ((hf.condition rfl).below (by decide) (by decide))) hf hc

end

/-- The clauses behind the sources are read one after the other. -/
theorem Outline.Parts.adds (hgrouping : ∀ e ∈ o.groups, (e.lexemes d).head?.any
      (fun l => l.isKeyword "CUBE" || l.isKeyword "ROLLUP") = false)
    (hcount : ∀ e ∈ o.limit?, e.isRemainder = false) (hf : Follows .clauses rest) :
    Adds (.ofDepth d tokens (m + 1)) (o.opening d) (clauseLexemes d (o.endings d)) o.clauses
      rest := by
  have hclause := hs.follows hf
  have hkey : Follows .key (clauseLexemes d ((o.endings d).drop 4) ++ rest) := by
    refine .clauseLexemes ?_ (fun w hw => hs.endings_tame w (List.mem_of_mem_drop hw)) hf.tame
      fun _ => hf.mono (List.subset_def.mpr (by decide))
    simp only [Outline.endings, List.drop_succ_cons, List.drop_zero, List.forall_mem_cons]
    refine ⟨?_, ?_, List.forall_mem_nil _⟩ <;> decide
  have hoffset := h.adds_offset (c := { o.clauses with offset? := none }) rfl (hclause 6)
  have hlimit := hs.adds_limit h (c := { o.opening d with
      where? := o.where?.map Outline.clause
      groupBy? := (Outline.listed? o.groups).map Outline.clause
      having? := o.having?.map Outline.clause
      orderBy? := (Outline.listed? o.keys).map Outline.clause }) hcount rfl rfl (hclause 5)
  exact (h.adds_condition rfl (hclause 1)).trans
    ((Outline.Parts.adds_groups hs h hgrouping rfl (hclause 2)).trans
    ((h.adds_having rfl (hclause 3)).trans
    ((hs.adds_keys h rfl hkey ((hclause 4).head_any (by decide))).trans
    (hlimit.trans (hoffset.trans (.refl _))))))

omit h in
/-- Behind the sources, what is left of the select follows them: an offset does not stand alone. -/
theorem Outline.Parts.follows_sources {level : Level} (hends : o.offset?.isSome →
      d.leadingLimit = false ∧ (o.limit?.isSome ∨ o.keys ≠ []))
    (hwords : ∀ w ∈ clauseWords.dropLast, kw w ∈ level.followers) (hf : Follows .clauses rest)
    (hrest : Follows level rest) : Follows level (clauseLexemes d (o.endings d) ++ rest) := by
  have hsplit : clauseLexemes d (o.endings d) ++ rest = clauseLexemes d ((o.endings d).take 5) ++
      (clauseLexemes d ((o.endings d).drop 5) ++ rest) := by
    rw [← List.append_assoc, ← clauseLexemes_append, List.take_append_drop]
  rw [hsplit]
  refine .clauseLexemes ?_ (fun w hw => hs.endings_tame w (List.mem_of_mem_take hw))
    (hs.follows hf 5).tame fun hnil => ?_
  · simp only [Outline.endings, List.take_succ_cons, List.take_zero, List.forall_mem_cons]
    refine ⟨?_, ?_, ?_, ?_, ?_, List.forall_mem_nil _⟩ <;> exact ⟨by decide, hwords _ (by decide)⟩
  · have hnone : o.offset? = none := by
      cases hoffset : o.offset? with
      | none => rfl
      | some e =>
        obtain ⟨hled, hlimit | hkeys⟩ := hends (by simp [hoffset])
        · obtain ⟨count, hcount⟩ := Option.isSome_iff_exists.mp hlimit
          simp [Outline.endings, clauseLexemes, Lexeme.behind, hled, hcount] at hnil
        · obtain ⟨key, keys, hkeys⟩ := List.exists_cons_of_ne_nil hkeys
          simp [Outline.endings, clauseLexemes, Lexeme.behind, Outline.listed?, hkeys] at hnil
    simpa [Outline.endings, clauseLexemes, Lexeme.behind, hnone] using hrest

omit hs h in
theorem Outline.lexemes_joins (js : List Join) :
    Layout.lexemes (joinsParts d js) = js.flatMap fun j => Layout.lexemes (joinsParts d [j]) := by
  induction js with
  | nil => simp [joinsParts]
  | cons j js ih => rw [joinsParts_cons, Layout.lexemes_append, ih, List.flatMap_cons]

omit hs h in
/-- A join follows a join. -/
theorem Node.Shape.follows_join {j : Join} (hj : (Node.join j).Shape d) (hf : Follows .join rest) :
    Follows .join (Layout.lexemes (joinsParts d [j]) ++ rest) := by
  obtain ⟨hsegment, l, ls, hl, hmem⟩ := hj
  have htame := hsegment.written.tame
  rw [hl] at htame ⊢
  obtain ⟨htl, htls⟩ := List.forall_mem_cons.mp htame
  have hnot : ∀ l ∈ Level.behindJoin, l ≠ .symbol "<" ∧ l ≠ .symbol ">" := by decide
  exact .mark hmem (hnot l hmem) htl (tame_append htls hf.tame)

omit h in
theorem Outline.Parts.follows_joins (hf : Follows .join rest) :
    Follows .join (Layout.lexemes (joinsParts d o.joins) ++ rest) := by
  rw [Outline.lexemes_joins]
  have hjoins := hs.joins
  generalize o.joins = js at hjoins ⊢
  induction js with
  | nil => exact hf
  | cons j js ih =>
    obtain ⟨hj, hjs⟩ := List.forall_mem_cons.mp hjoins
    rw [List.flatMap_cons, List.append_assoc]
    exact hj.follows_join (ih hjs)

theorem Outline.Parts.reads_joins (hf : Follows .join rest) (hclause : Follows .clause rest) :
    Parser.Reads (Parser.joins (.ofDepth d tokens (m + 1))) (Layout.lexemes (joinsParts d o.joins)) o.joins
      rest := by
  rw [Outline.lexemes_joins]
  refine joins_reads hf (fun j hj rest hf => (hs.joins j hj).follows_join hf)
    (fun j hj rest hf p => h.joins j hj (m + 1) (Nat.le_succ m) p rest hf) (fun j hj hnil => ?_)
    fun p => join_leaves (hclause.head_any (by decide))
  obtain ⟨-, l, ls, hl, -⟩ := hs.joins j hj
  simp [hl] at hnil

end

/-! ## The whole select -/

/-- The lexemes of a limit before the projected expressions. -/
def Outline.topLexemes (d : Dialect) (o : Outline) : List Lexeme :=
  if d.leadingLimit then Layout.lexemes (topParts d (o.limit?.map Outline.clause)) else []

/-- The lexemes of the source and its word. -/
def Outline.sourceLexemes (d : Dialect) (o : Outline) : List Lexeme :=
  o.from?.elim [] fun q => kw "FROM" :: q.lexemes d

/-- The lexemes behind the source. -/
def Outline.behindLexemes (d : Dialect) (o : Outline) : List Lexeme :=
  Layout.lexemes (joinsParts d o.joins) ++ clauseLexemes d (o.endings d)

theorem Outline.lexemes_body : Layout.lexemes (o.bodyParts d) =
    (if o.isDistinct then [kw "DISTINCT"] else []) ++ (o.topLexemes d ++
      (Lexeme.commas (o.items.map (Expr.lexemes d)) ++
        (o.sourceLexemes d ++ o.behindLexemes d))) := by
  have hdistinct : Layout.lexemes (if o.isDistinct then [Part.word "DISTINCT"] else []) =
      if o.isDistinct then [kw "DISTINCT"] else [] := by
    split <;> simp [Lexeme.ofWord_grammar "DISTINCT" (by decide)]
  have htop : Layout.lexemes (if d.leadingLimit then topParts d (o.limit?.map Outline.clause)
      else []) = o.topLexemes d := by
    rw [Outline.topLexemes]
    split <;> rfl
  have hsource : Layout.lexemes (sourceParts d (o.from?.map Outline.clause)) =
      o.sourceLexemes d := by
    rw [Outline.sourceLexemes]
    cases o.from? with
    | none => simp [sourceParts]
    | some q => simp [sourceParts, Outline.clause, Layout.comments, Query.lexemes,
        Lexeme.ofWord_grammar "FROM" (by decide)]
  simp only [Outline.bodyParts, Outline.leadingParts, Layout.lexemes_append, hdistinct, htop, hsource,
    Layout.lexemes_commas, lexemes_exprs, Outline.lexemes_endingsParts, Outline.behindLexemes,
    List.append_assoc]

/-- A limit before the projected expressions. -/
theorem Outline.Parts.reads_top (h : o.Parts (Node.ReadsFrom d tokens m)) {ls : List Lexeme}
    (htop : d.leadingLimit = true → ls.head?.any (·.reads "TOP") = false)
    (htame : ∀ l ∈ ls, l.isTame = true) :
    Parser.Reads (leadingLimit (.ofDepth d tokens (m + 1))) (o.topLexemes d) (o.opening d).limit?
      ls := by
  rw [Outline.topLexemes, Outline.opening]
  cases hled : d.leadingLimit with
  | false =>
    exact leadingLimit_leaves fun hled' => absurd (hled.symm.trans hled') (by decide)
  | true =>
    cases hlimit : o.limit? with
    | none =>
      simp only [Option.map_none, topParts, if_true]
      exact leadingLimit_leaves fun _ => htop hled
    | some e =>
      have hword : Lexeme.ofWord "TOP" = .word "TOP" := Lexeme.ofWord_plain _ (by decide)
      simp only [Option.map_some, Outline.clause, topParts, if_true]
      cases hnumber : e.isNumber with
      | true =>
        obtain ⟨s, rfl⟩ : ∃ s, e = .number s := by
          cases e <;> first | exact ⟨_, rfl⟩ | cases hnumber
        have hlexemes : Layout.lexemes (.word "TOP" :: (Expr.number s).parts d) =
            .word "TOP" :: [.number s] := by
          rw [Layout.lexemes_cons, Layout.lexemes_word, hword, ← Expr.lexemes_number d]
          rfl
        simp only [if_true, hlexemes]
        exact leadingLimit_reads_number hled (primary_reads_number s) (List.cons_ne_nil _ _) rfl
      | false =>
        have hlexemes : Layout.lexemes (.word "TOP" :: Layout.between (.symbol "(") (e.parts d)) =
            .word "TOP" :: .symbol "(" :: (e.lexemes d ++ [.symbol ")"]) := by
          rw [Layout.lexemes_cons, Layout.lexemes_word, hword, Layout.lexemes_between]
          rfl
        simp only [Bool.false_eq_true, if_false, hlexemes]
        exact leadingLimit_reads_term hled
          ((h.limit e hlimit m le_rfl).reader (by decide) (.closing (by decide) htame))

theorem Outline.Parts.items_ne_nil (hs : o.Parts (Node.Shape d)) (hne : o.items ≠ []) :
    Lexeme.commas (o.items.map (Expr.lexemes d)) ≠ [] := by
  obtain ⟨e, es, hitems⟩ := List.exists_cons_of_ne_nil hne
  have hshape : e.Shape d := hs.items e (by simp [hitems])
  intro hnil
  have hhead : (Lexeme.commas ((e :: es).map (Expr.lexemes d)) ++ []).head?.any Lexeme.beginsExpr =
      true := hshape.head_commas []
  rw [← hitems, hnil] at hhead
  cases hhead

/-- No hint stands before the projected expressions. -/
theorem Outline.Shape.head_ne_hint (h : o.Shape d) (hs : o.Parts (Node.Shape d)) (hne : o.items ≠ [])
    (rest : List Lexeme) (s : String) : ((if o.isDistinct then [kw "DISTINCT"] else []) ++
      (o.topLexemes d ++ (Lexeme.commas (o.items.map (Expr.lexemes d)) ++
        (o.sourceLexemes d ++ (o.behindLexemes d ++ rest))))).head? ≠ some (.hint s) := by
  have hprinted := h.body.printed (.hint s)
  rw [Outline.lexemes_body] at hprinted
  intro hhead
  have hmem : Lexeme.hint s ∈ (if o.isDistinct then [kw "DISTINCT"] else []) ++ (o.topLexemes d ++
      (Lexeme.commas (o.items.map (Expr.lexemes d)) ++ (o.sourceLexemes d ++ o.behindLexemes d))) := by
    simp only [← List.append_assoc] at hhead ⊢
    rw [Lexeme.head?_append (by simp [hs.items_ne_nil hne])] at hhead
    exact List.mem_of_mem_head? hhead
  cases (hprinted hmem).1

/-- Where a select with words before its projected expressions goes on behind them, an expression
can begin. -/
theorem Outline.Parts.head_items (hs : o.Parts (Node.Shape d)) (hne : o.items ≠ [])
    (ls : List Lexeme) : (o.topLexemes d ++ (Lexeme.commas (o.items.map (Expr.lexemes d)) ++ ls)).head?.any
      Lexeme.beginsExpr = true := by
  obtain ⟨e, es, hitems⟩ := List.exists_cons_of_ne_nil hne
  have hhead : (Lexeme.commas (o.items.map (Expr.lexemes d)) ++ ls).head?.any Lexeme.beginsExpr =
      true := by
    rw [hitems]
    exact (show e.Shape d from hs.items e (by simp [hitems])).head_commas ls
  rw [Outline.topLexemes]
  split
  · cases o.limit? with
    | none => exact hhead
    | some e =>
      simp only [Option.map_some, Outline.clause, topParts, Layout.lexemes_cons, Layout.lexemes_word,
        Lexeme.ofWord_plain "TOP" (by decide)]
      rfl
  · exact hhead

section

variable (hs : o.Parts (Node.Shape d)) (h : o.Parts (Node.ReadsFrom d tokens m))
  (hends : o.offset?.isSome → d.leadingLimit = false ∧ (o.limit?.isSome ∨ o.keys ≠ []))
include hs hends

/-- The joins and clauses of a select, or what stands behind them, follow its source. -/
theorem Outline.Parts.follows_table (hf : Follows .clauses rest) :
    Follows .join (o.behindLexemes d ++ rest) := by
  rw [Outline.behindLexemes, List.append_assoc]
  exact hs.follows_joins
    (hs.follows_sources hends (by decide) hf (hf.mono (List.subset_def.mpr (by decide))))

/-- The source of a select, or what stands behind it, follows the projected expressions. -/
theorem Outline.Parts.follows_items (hsource : o.joins ≠ [] → o.from?.isSome) (hf : Follows .clauses rest)
    (hexcept : rest.head? = some (kw "EXCEPT") → o.from?.isSome = true) :
    Follows .item (o.sourceLexemes d ++ (o.behindLexemes d ++ rest)) := by
  have htable := Outline.Parts.follows_table hs hends hf
  rw [Outline.sourceLexemes]
  cases hfrom : o.from? with
  | none =>
    have hjoins : o.joins = [] := by
      by_contra hne
      simpa [hfrom] using hsource hne
    rw [Outline.behindLexemes, hjoins]
    refine hs.follows_sources hends (by decide) hf (hf.ofClauses fun heq => ?_)
    simpa [hfrom] using hexcept heq
  | some q =>
    have hquery : ∀ l ∈ q.lexemes d, l.isTame = true := (hs.tables q hfrom).1.tame
    exact .mark (by decide) (by decide) (by decide) (tame_append hquery htable.tame)

omit hends in
/-- Behind the projected expressions stands the source or, without one, a clause. -/
theorem Outline.Parts.head_behind_items (hsource : o.joins ≠ [] → o.from?.isSome)
    (hf : Follows .clauses rest) {is : Lexeme → Bool} (hfrom : is (kw "FROM") = false)
    (hclause : ∀ l ∈ Level.clause.followers, is l = false) :
    (o.sourceLexemes d ++ (o.behindLexemes d ++ rest)).head?.any is = false := by
  rw [Outline.sourceLexemes]
  cases hsome : o.from? with
  | none =>
    have hjoins : o.joins = [] := by
      by_contra hne
      simpa [hsome] using hsource hne
    have hfollow : Follows .clause (clauseLexemes d (o.endings d) ++ rest) := hs.follows hf 0
    rw [Outline.behindLexemes, hjoins]
    exact hfollow.head_any hclause
  | some q => exact hfrom

include h

theorem Outline.Parts.reads_source (hf : Follows .clauses rest) :
    Parser.Reads (source (.ofDepth d tokens (m + 1))) (o.sourceLexemes d)
      (o.from?.map Outline.clause) (o.behindLexemes d ++ rest) := by
  have htable := Outline.Parts.follows_table hs hends hf
  rw [Outline.sourceLexemes]
  cases hfrom : o.from? with
  | none => exact source_leaves (htable.head_any (by decide))
  | some q =>
    exact source_reads (h.tables q hfrom (m + 1) (Nat.le_succ m) _ htable.joined)
      (hs.tables q hfrom).2

theorem Outline.Parts.reads_clauses {distinct? : Option Expr}
    (hgrouping : ∀ e ∈ o.groups, (e.lexemes d).head?.any
      (fun l => l.isKeyword "CUBE" || l.isKeyword "ROLLUP") = false)
    (hcount : ∀ e ∈ o.limit?, e.isRemainder = false) (hf : Follows .clauses rest) :
    Parser.Reads (Parser.clauses (.ofDepth d tokens (m + 1)) (.select ⟨none, [], [], distinct?, [], o.items,
        none, o.from?.map Outline.clause,
        { ClausesOf.empty with limit? := (o.opening d).limit? }⟩))
      (o.behindLexemes d)
      (.select ⟨none, [], [], distinct?, [], o.items, none, o.from?.map Outline.clause, o.clauses⟩)
      rest := by
  have hclause : Follows .clause (clauseLexemes d (o.endings d) ++ rest) := hs.follows hf 0
  have hjoin : Follows .join (clauseLexemes d (o.endings d) ++ rest) :=
    hs.follows_sources hends (by decide) hf (hf.mono (List.subset_def.mpr (by decide)))
  have hadds := hs.adds h hgrouping hcount hf
  refine clauses_reads (hs.reads_joins h hjoin hclause) (hclause.head_any (by decide)) hadds ?_ hf
  intro hnil
  obtain ⟨hjoins, hendings⟩ := List.append_eq_nil_iff.mp hnil
  rw [hendings] at hadds
  have hnone : o.joins = [] := by
    cases hjs : o.joins with
    | nil => rfl
    | cons j js =>
      obtain ⟨-, l, ls, hl, -⟩ := hs.joins j (by simp [hjs])
      rw [hjs, Outline.lexemes_joins, List.flatMap_cons, hl] at hjoins
      cases hjoins
  rw [hadds.eq_of_nil, Outline.opening, hnone]
  rfl

theorem Node.Reads.select (hne : o.items ≠ []) (hbody : o.Shape d)
    (htop : d.leadingLimit = true →
      (Lexeme.commas (o.items.map (Expr.lexemes d))).head?.any (·.reads "TOP") = false)
    (hsource : o.joins ≠ [] → o.from?.isSome)
    (hgrouping : ∀ e ∈ o.groups, (e.lexemes d).head?.any
      (fun l => l.isKeyword "CUBE" || l.isKeyword "ROLLUP") = false)
    (hcount : ∀ e ∈ o.limit?, e.isRemainder = false) :
    (Node.select o).Reads d tokens (.ofDepth d tokens (m + 1)) := by
  intro rest hf hexcept
  have hitem := Outline.Parts.follows_items hs hends hsource hf hexcept
  have hitems := separated_exprs (by decide) hne hs.items
    (fun x hx rest hf => h.items x hx m le_rfl rest hf) hitem
    (hs.head_behind_items hsource hf rfl (by decide))
  have hbegin := hs.head_items hne (o.sourceLexemes d ++ (o.behindLexemes d ++ rest))
  have hforeign {is : Lexeme → Bool} (hnot : ∀ l, is l = true → l.beginsExpr = false) :=
    head_none hbegin hnot
  have hlimit : Parser.Reads (leadingLimit (.ofDepth d tokens (m + 1))) (o.topLexemes d)
      (o.opening d).limit? (Lexeme.commas (o.items.map (Expr.lexemes d)) ++
        (o.sourceLexemes d ++ (o.behindLexemes d ++ rest))) := by
    refine h.reads_top (fun hled => ?_) (tame_append (tame_exprs hs.items) hitem.tame)
    rw [Lexeme.head?_append (hs.items_ne_nil hne)]
    exact htop hled
  have hdistinct : Parser.Reads (distinct (.ofDepth d tokens (m + 1)))
      (if o.isDistinct then [kw "DISTINCT"] else [])
      (if o.isDistinct then some (.word "DISTINCT") else none)
      (o.topLexemes d ++ (Lexeme.commas (o.items.map (Expr.lexemes d)) ++
        (o.sourceLexemes d ++ (o.behindLexemes d ++ rest)))) := by
    cases o.isDistinct with
    | false =>
      exact distinct_leaves (hforeign fun l hl => by
        rcases Bool.or_eq_true_iff.mp hl with hl | hl <;>
          simp [Lexeme.beginsExpr, Lexeme.foreignWords, hl])
    | true =>
      refine distinct_reads (fun hnil => ?_) (hforeign fun l hl => by
        rcases Bool.or_eq_true_iff.mp hl with hl | hl <;>
          simp [Lexeme.beginsExpr, Lexeme.foreignWords, Lexeme.foreignSigns, hl])
      rw [hnil] at hbegin
      cases hbegin
  have hread : Parser.Reads (Parser.select (.ofDepth d tokens (m + 1)) tokens none) _ _ rest :=
    select_reads hdistinct hlimit hitems
      (Outline.Parts.reads_source hs h hends hf)
      (Outline.Parts.reads_clauses hs h hends hgrouping hcount hf) (hbody.head_ne_hint hs hne rest)
      (hforeign fun l hl => by simp [Lexeme.beginsExpr, Lexeme.foreignWords, hl])
      (hs.head_behind_items hsource hf rfl (by decide))
  rw [Outline.lexemes_body]
  exact hread

end

end QueryBook.Sql
