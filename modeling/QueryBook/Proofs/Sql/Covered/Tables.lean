import QueryBook.Proofs.Sql.Covered.Operators

/-!
# Reading sources and joins

A source is a table or a query between parentheses, perhaps with an alias, and other sources are
joined to it.
-/

namespace QueryBook.Sql

open QueryBook.Sql.Parser
open Lexeme (kw)

variable {d : Dialect} {tokens : String → Option (List Token)} {e : Expr} {q : Query}
  {rest : List Lexeme} {m : ℕ}

/-! ## Sources -/

/-- The alias of a source, as it is read. -/
theorem Query.alias_reads {q' : Query} (h : Labels q q') :
    ∃ ms, AliasOf ms q q' ∧ q'.lexemes d = q.lexemes d ++ ms ∧ (∀ l ∈ ms, l.isTame = true) ∧
      (ms = [] ∨ ms.head? = some (kw "AS")) := by
  cases h with
  | none => exact ⟨[], .none q, by simp, nofun, .inl rfl⟩
  | some hn hl =>
    refine ⟨_, AliasOf.some q hn.asName? hl, ?_, ?_, .inr rfl⟩
    · rw [Query.lexemes_aliased, Expr.lexemes_name hn]
    · exact List.forall_mem_cons.mpr ⟨by decide, List.forall_mem_cons.mpr ⟨hn.tame, nofun⟩⟩

/-- In front of what follows a source, or of its alias, nothing else is called or begun. -/
theorem Follows.aliased {ms : List Lexeme} (hf : Follows .table rest)
    (hms : ms = [] ∨ ms.head? = some (kw "AS")) {is : Lexeme → Bool}
    (hnot : ∀ l ∈ kw "AS" :: Level.table.followers, is l = false) :
    (ms ++ rest).head?.any is = false := by
  obtain ⟨has, hothers⟩ := List.forall_mem_cons.mp hnot
  rcases hms with rfl | hms
  · exact hf.head_any hothers
  · have hne : ms ≠ [] := by
      rintro rfl
      cases hms
    rw [Lexeme.head?_append hne, hms]
    exact has

theorem Lexeme.not_keyword_of_namesSource {l : Lexeme} (h : l.namesSource = true) :
    l.isSymbol "(" = false ∧
      ∀ kind ∈ ["WITH", "FROM", "SELECT", "LATERAL"], l.isKeyword kind = false := by
  have hnames : ∀ kind ∈ ["WITH", "FROM", "SELECT", "LATERAL"], Keyword.isName kind = false := by
    decide
  cases l with
  | keyword kind s =>
    refine ⟨rfl, fun kind' hmem => ?_⟩
    have hnot : Keyword.isName kind = true := by
      simp only [namesSource, isWordOf, Bool.and_eq_true, Bool.false_or] at h
      exact h.1
    simp only [isKeyword_keyword, beq_eq_false_iff_ne]
    rintro rfl
    simp [hnames kind hmem] at hnot
  | symbol => simp [namesSource, isWordOf] at h
  | _ => exact ⟨rfl, fun _ _ => rfl⟩

theorem Node.Reads.table (h : (Node.source e).Reads d tokens (.ofDepth d tokens (m + 1)))
    (hs : (Node.source e).Shape d) (hq : Labels (.expr e) q) :
    (Node.table q).Reads d tokens (.ofDepth d tokens (m + 1)) := by
  intro rest hf
  obtain ⟨ms, halias, hlexemes, htameAlias, hms⟩ := Query.alias_reads (d := d) hq
  rw [Query.lexemes_expr] at hlexemes
  obtain ⟨-, hdotted, l, ls, hl, hsource, hpoint⟩ := hs
  have htame : ∀ l ∈ q.lexemes d ++ rest, l.isTame = true := by
    rw [hlexemes]
    exact tame_append (tame_append hdotted.written.tame htameAlias) hf.tame
  have hnot := Lexeme.not_keyword_of_namesSource hsource
  have hhead : (q.lexemes d ++ rest).head? = some l := by simp [hlexemes, hl]
  have hplain : Parser.Reads (plainTable (.ofDepth d tokens (m + 1))) (q.lexemes d) (some q) rest := by
    rw [hlexemes]
    exact plainTable_reads (h _ (hf.aliased hms (by decide))) halias hf
  have hparen : (q.lexemes d ++ rest)[1]?.any (Lexeme.isSymbol "(" ·) = false := by
    cases ls with
    | nil =>
      have hbehind : (ms ++ rest).head?.any (·.isSymbol "(") = false := hf.aliased hms (by decide)
      rw [List.head?_eq_getElem?] at hbehind
      simpa [hlexemes, hl] using hbehind
    | cons l' ls =>
      have hdot : l' = .symbol "." := Lexeme.isSymbol_iff.mp (by simpa using hpoint)
      simp [hlexemes, hl, hdot, Lexeme.isSymbol]
  have hquery : Leaves ((Grammar.ofDepth d tokens (m + 1)).query .source) none
      (q.lexemes d ++ rest) := by
    refine query_leaves htame ?_ (.inr ?_) <;> rw [hhead]
    · simp [hnot.2]
    · exact hnot.1
  exact table_reads_plain hplain htame (by simp [hhead, hnot.2]) hparen hquery

/-- A query between parentheses as a source, perhaps with an alias. -/
theorem Node.Reads.derived {q' : Query} (h : (Node.query q).Reads d tokens (.ofDepth d tokens m))
    (hs : q.Shape d) (hend : withEnd q = q) (hq : Labels (.nested q) q') :
    (Node.table q').Reads d tokens (.ofDepth d tokens (m + 2)) := by
  intro rest hf
  obtain ⟨ms, halias, hlexemes, htameAlias, -⟩ := Query.alias_reads (d := d) hq
  rw [Query.lexemes_nested, List.cons_append, List.append_assoc, List.singleton_append] at hlexemes
  obtain ⟨l, ls, hl, hquery⟩ := hs.lexemes_eq
  have htameQuery : ∀ l ∈ q.lexemes d, l.isTame = true := hs.written.tame
  have htameBehind : ∀ l ∈ ms ++ rest, l.isTame = true := tame_append htameAlias hf.tame
  have htameClosing : ∀ l ∈ Lexeme.symbol ")" :: (ms ++ rest), l.isTame = true :=
    List.forall_mem_cons.mpr ⟨rfl, htameBehind⟩
  have hinner : Parser.Reads (Parser.table (.ofDepth d tokens (m + 1))) (q.lexemes d) (some q)
      (.symbol ")" :: (ms ++ rest)) := by
    refine table_reads_query (h .source _ (by decide) ⟨rfl, htameClosing⟩)
      (tame_append htameQuery htameClosing) ?_
    rw [hquery]
    rcases hl with rfl | rfl <;> rfl
  have houter : Parser.Reads (Parser.query (.ofDepth d tokens (m + 1)) tokens .source) _ _ rest :=
    query_reads_nested hinner hend halias (by rw [hquery]; rcases hl with rfl | rfl <;> rfl)
      (by simp [hquery]) hf htameBehind
  rw [← hlexemes] at houter
  refine table_reads_query houter ?_ (by rw [hlexemes]; rfl)
  rw [hlexemes]
  exact tame_append (List.forall_mem_cons.mpr ⟨rfl, tame_append htameQuery
    (List.forall_mem_cons.mpr ⟨rfl, htameAlias⟩)⟩) hf.tame

/-! ## Joins -/

/-- The words of a join. -/
theorem lexemes_joinWords {ws : List String} (hws : ws ∈ joinPhrases) (ps : List Part) :
    Layout.lexemes (words (ws ++ ["JOIN"]) ++ ps) =
      ws.map kw ++ kw "JOIN" :: Layout.lexemes ps := by
  have hall : ∀ ws ∈ joinPhrases, (ws ++ ["JOIN"]).map Lexeme.ofWord = ws.map kw ++ [kw "JOIN"] := by
    decide
  rw [Layout.lexemes_append, Layout.lexemes_words, hall ws hws, List.append_assoc]
  rfl

/-- What follows a join follows its source. -/
theorem Follows.joined (hf : Follows .join rest) : Follows .table rest :=
  hf.mono (List.subset_def.mpr (by decide))

section

variable {g : Grammar} {ws : List String}

theorem Node.Reads.joinComma (h : (Node.table q).Reads d tokens g) :
    (Node.join ⟨[], [], q, none, []⟩).Reads d tokens g := by
  intro p rest hf
  rw [joinsParts_comma, Layout.lexemes_cons, Layout.lexemes_joined]
  exact join_reads_comma (h rest hf.joined)

theorem Node.Reads.joinBare (hws : ws ∈ joinPhrases) (hne : ws ≠ [])
    (hnested : allowsNested ws q = false) (h : (Node.table q).Reads d tokens g) :
    (Node.join ⟨[], ws, q, none, []⟩).Reads d tokens g := by
  intro p rest hf
  rw [joinsParts_bare d hne (joinPhrases_ne hws), lexemes_joinWords hws]
  exact join_reads_untested hws hnested (h rest hf.joined) (hf.head_any (by decide))

theorem Node.Reads.joinOn (hws : ws ∈ joinPhrases) (h : (Node.table q).Reads d tokens
      (.ofDepth d tokens (m + 1))) (hs : e.Shape d)
    (he : (Node.expr .disjunction e).Reads d tokens (.ofDepth d tokens m)) :
    (Node.join ⟨[], ws, q, some e, []⟩).Reads d tokens (.ofDepth d tokens (m + 1)) := by
  intro p rest hf
  have htest : Follows .table (kw "ON" :: (e.lexemes d ++ rest)) :=
    .mark (by decide) (by decide) (by decide) (tame_append hs.tame hf.tame)
  have hlexemes : Layout.lexemes (q.parts d ++ .word "ON" :: e.parts d) =
      q.lexemes d ++ kw "ON" :: e.lexemes d := by
    rw [Layout.lexemes_append, Layout.lexemes_cons, Layout.lexemes_word,
      Lexeme.ofWord_grammar "ON" (by decide)]
    rfl
  rw [joinsParts_on d (joinPhrases_ne hws), lexemes_joinWords hws, hlexemes]
  have hon := joinTest_reads_on (g := .ofDepth d tokens (m + 1)) (he.condition (hf.condition rfl))
  exact join_reads_tested hws (h _ htest) hon

theorem Node.Reads.joinUsing {ns : List Name} (hws : ws ∈ joinPhrases) (hne : ns ≠ [])
    (h : (Node.table q).Reads d tokens (.ofDepth d tokens (m + 1)))
    (hs : ∀ n ∈ ns, (Node.path (.name n)).Shape d)
    (hns : ∀ n ∈ ns, (Node.path (.name n)).Reads d tokens (.ofDepth d tokens m)) :
    (Node.join ⟨[], ws, q, none, ns.map .name⟩).Reads d tokens (.ofDepth d tokens (m + 1)) := by
  intro p rest hf
  have hnames : ∀ e ∈ ns.map Expr.name, ∃ n ∈ ns, e = .name n := fun e he => by
    obtain ⟨n, hn, rfl⟩ := List.mem_map.mp he
    exact ⟨n, hn, rfl⟩
  have hshapes : ∀ e ∈ ns.map Expr.name, e.Shape d := fun e he => by
    obtain ⟨n, hn, rfl⟩ := hnames e he
    exact (hs n hn).1
  have htame : ∀ l ∈ Lexeme.symbol "(" ::
      (Lexeme.commas ((ns.map Expr.name).map (Expr.lexemes d)) ++ .symbol ")" :: rest),
      l.isTame = true :=
    List.forall_mem_cons.mpr ⟨rfl, tame_append (tame_exprs hshapes)
      (List.forall_mem_cons.mpr ⟨rfl, hf.tame⟩)⟩
  have htest : Follows .table (kw "USING" :: .symbol "(" ::
      (Lexeme.commas ((ns.map Expr.name).map (Expr.lexemes d)) ++ .symbol ")" :: rest)) :=
    .mark (by decide) (by decide) (by decide) htame
  have hlexemes : Layout.lexemes (q.parts d ++ .word "USING" ::
      Layout.between (.symbol "(") (Layout.commas (exprsParts d (ns.map .name)))) =
        q.lexemes d ++ kw "USING" :: .symbol "(" ::
          (Lexeme.commas ((ns.map Expr.name).map (Expr.lexemes d)) ++ [.symbol ")"]) := by
    rw [Layout.lexemes_append, Layout.lexemes_cons, Layout.lexemes_word,
      Lexeme.ofWord_grammar "USING" (by decide)]
    simp [Query.lexemes]
  have hcolumn (e : Expr) (he : e ∈ ns.map Expr.name) (rest : List Lexeme)
      (hf : Follows .argument rest) :
      Parser.Reads (Grammar.ofDepth d tokens (m + 1)).column (e.lexemes d) (some e) rest := by
    obtain ⟨n, hn, rfl⟩ := hnames e he
    exact (hns n hn rest hf.operand.noParen (noBrackets_of_follows hf.operand)).column_reads
      hf.operand
  have hclosing : Follows .argument (.symbol ")" :: rest) := .closing (by decide) hf.tame
  have hcolumns := separated_exprs (by decide) (by simpa using hne) hshapes hcolumn hclosing rfl
  have husing := joinTest_reads_using (fun e he => (hnames e he).imp fun _ h => h.2) hcolumns
  rw [joinsParts_using d (joinPhrases_ne hws) q (by simpa using hne), lexemes_joinWords hws, hlexemes]
  exact join_reads_tested hws (h _ (by simpa using htest)) husing

end

end QueryBook.Sql
