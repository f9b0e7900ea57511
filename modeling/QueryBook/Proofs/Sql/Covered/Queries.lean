import QueryBook.Proofs.Sql.Covered.Selects

/-!
# Reading queries

Set operations go on behind a select, and named queries stand in front of one. With them, every
covered tree is read as it is printed (`Covered.reads`).
-/

namespace QueryBook.Sql

open QueryBook.Sql.Parser
open Lexeme (kw)

variable {d : Dialect} {tokens : String → Option (List Token)} {q : Query} {rest : List Lexeme}
  {m : ℕ} {o : Outline}

/-! ## Set operations -/

/-- A chain of selects begins with its first word. -/
theorem Query.ChainShape.lexemes_eq (h : q.ChainShape d) : ∃ ls, q.lexemes d = kw "SELECT" :: ls := by
  obtain ⟨ps, hparts⟩ := h.first
  refine ⟨Layout.lexemes ps, ?_⟩
  rw [Query.lexemes, hparts, Layout.lexemes_cons, Layout.lexemes_word,
    Lexeme.ofWord_grammar _ (by decide)]
  rfl

theorem Query.ChainShape.lexemes_withEnd (h : q.ChainShape d) :
    (withEnd q).lexemes d = q.lexemes d := by
  rw [Query.lexemes, h.parts_withEnd, Query.lexemes]

theorem Outline.Shape.lexemes_select (h : o.Shape d) :
    (Query.select o.select).lexemes d = kw "SELECT" :: Layout.lexemes (o.bodyParts d) := by
  rw [Query.lexemes, Query.parts, selectParts_outline d h.offset h.limit, Layout.lexemes_cons,
    Layout.lexemes_word, Lexeme.ofWord_grammar _ (by decide)]
  rfl

theorem Outline.endsWithSource_select : (Query.select o.select).endsWithSource = o.from?.isSome := by
  simp [Query.endsWithSource, Outline.select]

theorem Node.Reads.chain {g : Grammar} (h : (Node.select o).Reads d tokens g) (hs : o.Shape d) :
    (Node.chain (.select o.select)).Reads d tokens g := by
  intro ls rest hls hf hexcept
  rw [hs.lexemes_select] at hls
  cases hls
  rw [Outline.endsWithSource_select] at hexcept
  have hselect := h rest hf hexcept
  refine .of_reads fun last? => ?_
  simp [selectQuery, hselect last?]

theorem Node.Reads.combined {ws : List String} (hws : ws ∈ setPhrases)
    (hexcept : ws.head? = some "EXCEPT" → q.endsWithSource = true) (hs : q.ChainShape d)
    (ho : o.Shape d) (h : (Node.chain q).Reads d tokens (.ofDepth d tokens (m + 1)))
    (hselect : (Node.select o).Reads d tokens (.ofDepth d tokens m)) :
    (Node.chain (.combined ws [] q (.select o.select))).Reads d tokens
      (.ofDepth d tokens (m + 1)) := by
  intro ls rest hls hf hexcept'
  obtain ⟨front, hfront⟩ := hs.lexemes_eq
  rw [Query.lexemes_combined d hws, hfront, ho.lexemes_select] at hls
  obtain ⟨-, rfl⟩ := List.cons_eq_cons.mp hls
  have hstep : Parser.Reads (setStep (.ofDepth d tokens (m + 1)) q) _ _ rest :=
    setStep_reads hws (query_reads_operand (hselect rest hf fun heq => by
      simpa [Query.endsWithSource, Outline.select] using hexcept' heq))
  have hall : ∀ ws ∈ setPhrases, ws ≠ [] ∧ (∀ w ∈ ws.head?, kw w ∈ Level.clauses.followers) ∧
      ∀ l ∈ ws.map kw, l.isTame = true := by decide
  obtain ⟨hne, hfollow, htame⟩ := hall ws hws
  obtain ⟨w, ws, rfl⟩ := List.exists_cons_of_ne_nil hne
  obtain ⟨hw, htame⟩ := List.forall_mem_cons.mp htame
  have hselects : ∀ l ∈ kw "SELECT" :: Layout.lexemes (o.bodyParts d), l.isTame = true :=
    List.forall_mem_cons.mpr ⟨by decide, ho.body.tame⟩
  refine (h front _ hfront ?follows fun heq => hexcept ?except).more hstep (by simp)
  case follows =>
    exact .mark (hfollow w rfl) (by simp) hw (tame_append (tame_append htame hselects) hf.tame)
  case except => simpa using heq

theorem Node.Reads.query {g : Grammar} (h : (Node.chain q).Reads d tokens g) (hs : q.ChainShape d) :
    (Node.query (withEnd q)).Reads d tokens g := by
  intro place rest hplace hcloses
  obtain ⟨ls, hls⟩ := hs.lexemes_eq
  rw [hs.lexemes_withEnd, hls]
  refine query_reads hplace (h ls rest hls (hcloses.follows (by decide)) fun heq => ?_) hcloses
  have hhead := hcloses.1
  rw [heq] at hhead
  cases hhead

/-- A query as a whole statement. -/
theorem Node.Reads.statement (h : (Node.query q).Reads d tokens (.ofDepth d tokens m))
    (hs : q.Shape d) (hrest : Closes rest) :
    Parser.Reads (Parser.statement (.ofDepth d tokens (m + 1))) (q.lexemes d) (some q) rest := by
  obtain ⟨l, ls, hl, hquery⟩ := hs.lexemes_eq
  have htame : ∀ l ∈ q.lexemes d, l.isTame = true := hs.written.tame
  have hread := h .alone rest (by decide) hrest
  rw [hquery] at htame hread ⊢
  refine statement_reads hl (item_leaves (by rcases hl with rfl | rfl <;> decide) ?_) hread hrest
  exact tame_append (List.forall_mem_cons.mp htame).2 hrest.2

/-! ## Named queries -/

theorem CommonTable.lexemes_parts (t : CommonTable Expr Query) : Layout.lexemes (t.parts d) =
    t.name.lexemes d ++ kw "AS" :: .symbol "(" :: (t.query.lexemes d ++ [.symbol ")"]) := by
  rw [CommonTable.parts, Layout.lexemes_append, Layout.lexemes_cons, Layout.lexemes_word,
    Lexeme.ofWord_grammar "AS" (by decide), Layout.lexemes_between]
  rfl

/-- A named query, whose name is read with its columns. -/
theorem Node.Reads.common {n : Name} {l : Lexeme} {ls : List Lexeme} {e : Expr} (hn : n.Writes l)
    (hl : l.namesTable = true)
    (hname : ∀ rest, (∀ l ∈ rest, l.isTame = true) →
      ColumnsOf (.ofDepth d tokens (m + 2)) n (kw "AS" :: rest) ls e)
    (hlexemes : e.lexemes d = l :: ls) (hs : q.Shape d)
    (h : (Node.query q).Reads d tokens (.ofDepth d tokens m)) :
    (Node.named ⟨e, [], q⟩).Reads d tokens (.ofDepth d tokens (m + 2)) := by
  intro rest htame
  have hcloses : Closes (.symbol ")" :: rest) := ⟨rfl, List.forall_mem_cons.mpr ⟨rfl, htame⟩⟩
  have hstatement := h.statement hs hcloses
  simp only [Lexeme.namesTable, Bool.and_eq_true, Bool.not_eq_true'] at hl
  have hlimit : l.isKeyword "LIMIT" = false ∧ l.isKeyword "OFFSET" = false := by
    simp_all
  have htameQuery : ∀ l ∈ q.lexemes d, l.isTame = true := hs.written.tame
  rw [CommonTable.lexemes_parts, hlexemes]
  exact commonTable_reads hn.asName? hl.1 hlimit
    (hname _ (List.forall_mem_cons.mpr ⟨rfl, tame_append htameQuery hcloses.2⟩)) hstatement hs.notRows

theorem Node.Reads.named {n : Name} {l : Lexeme} (hn : n.Writes l) (hl : l.namesTable = true)
    (hs : q.Shape d) (h : (Node.query q).Reads d tokens (.ofDepth d tokens m)) :
    (Node.named ⟨.name n, [], q⟩).Reads d tokens (.ofDepth d tokens (m + 2)) :=
  .common hn hl (fun _ _ => .none) (Expr.lexemes_name hn) hs h

theorem Node.Reads.namedColumns {n : Name} {l : Lexeme} {ns : List Name} (hn : n.Writes l)
    (hl : l.namesTable = true) (hf : d.arrayBrackets = false ∨ n ≠ .plain "ARRAY")
    (hne : ns ≠ []) (hns : ∀ m ∈ ns, ∃ l, m.Writes l ∧ l.isNoName = false) (hs : q.Shape d)
    (h : (Node.query q).Reads d tokens (.ofDepth d tokens m)) :
    (Node.named ⟨.call n (ns.map .name), [], q⟩).Reads d tokens (.ofDepth d tokens (m + 2)) := by
  have hlexemes : (Expr.call n (ns.map .name)).lexemes d = l :: .symbol "(" ::
      (Lexeme.commas ((ns.map Expr.name).map (Expr.lexemes d)) ++ [.symbol ")"]) := by
    rw [Expr.lexemes, Expr.parts_call d hf, Layout.lexemes_append, hn.lexemes_parts]
    simp
  have hcolumn (n' : Name) (hn' : n' ∈ ns) (rest : List Lexeme) (hf : Follows .argument rest) :
      Parser.Reads (aliasColumn (.ofDepth d tokens (m + 2))) ((Expr.name n').lexemes d)
        (some (.name n')) rest := by
    obtain ⟨l', hwrites, hl'⟩ := hns n' hn'
    rw [Expr.lexemes_name hwrites]
    exact aliasColumn_reads hwrites.asName? hl' (type_leaves_end hf) hf
  have htame (n' : Name) (hn' : n' ∈ ns) : ∀ l ∈ (Expr.name n').lexemes d, l.isTame = true := by
    obtain ⟨l', hwrites, -⟩ := hns n' hn'
    simpa [Expr.lexemes_name hwrites] using hwrites.tame
  refine .common hn hl (fun rest hrest => ?_) hlexemes hs h
  have hbehind : Follows .argument (.symbol ")" :: kw "AS" :: rest) :=
    .closing (by decide) (List.forall_mem_cons.mpr ⟨by decide, hrest⟩)
  have hcolumns := separated_reads (by decide) hbehind rfl hne hcolumn htame
  rw [List.map_map]
  exact .some (by simpa using hne) hcolumns

theorem Query.lexemes_withNamed {isRecursive : Bool} {tables : List (CommonTable Expr Query)}
    {q' : Query} (htables : ∀ t ∈ tables, t.words = []) (hs : q.ChainShape d)
    (hwith : withNamed ⟨[], isRecursive, tables⟩ (withEnd q) = some q') :
    q'.lexemes d = kw "WITH" :: ((if isRecursive then [kw "RECURSIVE"] else []) ++
      Lexeme.commas (tables.map fun t => Layout.lexemes (t.parts d)) ++ (withEnd q).lexemes d) := by
  have hword := Lexeme.ofWord_grammar "WITH" (by decide)
  have hrecursive := Lexeme.ofWord_grammar "RECURSIVE" (by decide)
  rw [Query.lexemes, parts_withNamed d hwith hs.withEnd_kind, withParts_eq htables]
  simp only [Layout.lexemes_append, Layout.lexemes_words, Layout.lexemes_commas, List.map_map]
  cases isRecursive <;> simp [withWords, hword, hrecursive, Query.lexemes, Function.comp_def]

/-- Named queries in front of a query. -/
theorem Node.Reads.withTables {isRecursive : Bool} {tables : List (CommonTable Expr Query)}
    {q' : Query} (hne : tables ≠ []) (htables : ∀ t ∈ tables, (Node.named t).Shape d)
    (h : ∀ t ∈ tables, (Node.named t).Reads d tokens (.ofDepth d tokens (m + 2)))
    (hs : q.ChainShape d) (hq : (Node.chain q).Reads d tokens (.ofDepth d tokens m))
    (hwith : withNamed ⟨[], isRecursive, tables⟩ (withEnd q) = some q') :
    (Node.query q').Reads d tokens (.ofDepth d tokens (m + 2)) := by
  intro place rest hplace hcloses
  have hstatement := (hq.query hs).statement hs.query hcloses
  have htameQuery : ∀ l ∈ (withEnd q).lexemes d ++ rest, l.isTame = true :=
    tame_append hs.query.written.tame hcloses.2
  have hfirst : ∃ ls, (withEnd q).lexemes d = kw "SELECT" :: ls := by
    rw [hs.lexemes_withEnd]
    exact hs.lexemes_eq
  obtain ⟨ls, hselect⟩ := hfirst
  have hphrase (t : CommonTable Expr Query) (ht : t ∈ tables) : ∃ l ms,
      Layout.lexemes (t.parts d) = l :: ms ∧ l.isKeyword "WITH" = false ∧
        l.isKeyword "RECURSIVE" = false := by
    obtain ⟨-, -, l, ms, hl, hnot⟩ := htables t ht
    exact ⟨l, _, by rw [CommonTable.lexemes_parts, hl]; rfl, hnot⟩
  have hcommon : Parser.Reads (commonTables (.ofDepth d tokens (m + 2)))
      (Lexeme.commas (tables.map fun t => Layout.lexemes (t.parts d))) tables
      ((withEnd q).lexemes d ++ rest) := by
    refine commonTables_reads hne (fun t ht rest htame => h t ht rest htame)
      (fun t ht => (htables t ht).1.tame) (fun t ht => ?_) (fun t ht hnil => ?_)
      (by rw [hselect]; rfl) htameQuery
    · obtain ⟨l, ms, hl, hnot, -⟩ := hphrase t ht
      simpa [hl] using hnot
    · obtain ⟨l, ms, hl, -⟩ := hphrase t ht
      rw [hl] at hnil
      cases hnil
  have hlexemes := Query.lexemes_withNamed (fun t ht => (htables t ht).2.1) hs hwith
  obtain ⟨t, more, rfl⟩ := List.exists_cons_of_ne_nil hne
  obtain ⟨l, ms, hl, -, hnot⟩ := hphrase t List.mem_cons_self
  have hhead : ∃ ls, Lexeme.commas ((t :: more).map fun t => Layout.lexemes (t.parts d)) = l :: ls := by
    cases more <;> simp [Lexeme.commas, hl]
  obtain ⟨names, hnames⟩ := hhead
  have hread : Parser.Reads (Parser.withTables (.ofDepth d tokens (m + 2))) _
      (some ⟨[], isRecursive, t :: more⟩) ((withEnd q).lexemes d ++ rest) :=
    withTables_reads hcommon (by rw [hnames]; exact List.cons_ne_nil _ _)
      (by rw [hnames]; exact hnot)
  rw [hlexemes]
  exact query_reads_with hread hstatement hwith

end QueryBook.Sql
