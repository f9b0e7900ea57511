import QueryBook.Proofs.Sql.Covered.Shape

/-!
# The shape of covered trees

What the readers ask of a tree apart from reading it, for each kind of tree (`Node.Shape`): the parts
of an expression are a phrase, those of a query begin with its first word, those of a join or a
clause can stand behind any others. Every covered tree has its shape (`Covered.shape`), by induction
on how it is covered.
-/

namespace QueryBook.Sql

open Text Lexer Layout
open Lexeme (kw)

variable {d : Dialect} {e : Expr} {q : Query} {n : Name} {l : Lexeme}

/-! ## Shapes -/

/-- A query that begins with its first word. -/
structure Query.Shape (d : Dialect) (q : Query) : Prop where
  written : Written d (q.parts d)
  first : ∃ w ps, (w = "SELECT" ∨ w = "WITH") ∧ q.parts d = .word w :: ps
  isPlain : Parser.isPlainQuery q = true
  notRows : Parser.isRows q = false

/-- Selects with set operations between them, whose end is printed in the same place as that of the
whole. -/
structure Query.ChainShape (d : Dialect) (q : Query) : Prop where
  written : Written d (q.parts d)
  first : ∃ ps, q.parts d = .word "SELECT" :: ps
  kind : (∃ o : Outline, q = .select o.select) ∨ ∃ ws left right, q = .combined ws [] left right
  parts_withEnd : (Parser.withEnd q).parts d = q.parts d

/-- A select whose limits are printed where they are read. -/
structure Outline.Shape (d : Dialect) (o : Outline) : Prop where
  body : Written d (o.bodyParts d)
  limit : ∀ e ∈ o.limit?, e.parts d ≠ []
  offset : o.offset?.isSome → d.leadingLimit = false

/-- The parts of a named query. -/
def CommonTable.parts (d : Dialect) (t : CommonTable Expr Query) : List Part :=
  t.name.parts d ++ .word "AS" :: between (.symbol "(") (t.query.parts d)

/-- What is asked of a tree by the reader that it is for. -/
def Node.Shape (d : Dialect) : Node → Prop
  | .path e => e.Shape d ∧ Dotted d (e.parts d) ∧
      (e.lexemes d).head?.any Lexeme.namesColumn = true
  | .source e => e.bare = e ∧ Dotted d (e.parts d) ∧ ∃ l ms, e.lexemes d = l :: ms ∧
      l.namesSource = true ∧ ms.head?.all (·.isSymbol ".") = true
  | .expr level e => e.Shape d ∧ level ∉ Level.ends
  | .argument e | .item e | .key e => e.Shape d
  | .table q => Written d (q.parts d) ∧ ∀ rows, q ≠ .values rows
  | .join j => Segment d (joinsParts d [j]) ∧
      ∃ l ms, lexemes (joinsParts d [j]) = l :: ms ∧ l ∈ Level.behindJoin
  | .select o => o.Shape d
  | .chain q => q.ChainShape d
  | .query q => q.Shape d
  | .named t => Written d (t.parts d) ∧ t.words = [] ∧ ∃ l ms, t.name.lexemes d = l :: ms ∧
      l.isKeyword "WITH" = false ∧ l.isKeyword "RECURSIVE" = false

/-! ## Queries -/

section

variable (hd : d ∈ Dialect.all)
include hd

/-- A query, perhaps with an alias. -/
theorem Labels.written {q' : Query} (h : Labels q q') (hq : Written d (q.parts d)) :
    Written d (q'.parts d) := by
  cases h with
  | none => exact hq
  | some hn hl =>
    rw [Query.parts, Expr.parts]
    exact hq.glue (.word hd (by decide)) (hn.dotted hd).written

omit hd in
theorem Labels.ne_values {q' : Query} (h : Labels q q') (hq : ∀ rows, q ≠ .values rows)
    (rows : List Expr) : q' ≠ .values rows := by
  cases h with
  | none => exact hq rows
  | some => exact nofun

/-- An expression behind a word of the grammar. -/
theorem Segment.behind {w : String} (hw : w ∈ Lexeme.grammarWords.erase "WITH") {e? : Option Expr}
    (he : ∀ e ∈ e?, Written d (e.parts d)) : Segment d (partsBehind d [w] e?) := by
  cases e? with
  | none =>
    rw [partsBehind]
    exact .nil
  | some e =>
    rw [partsBehind]
    exact .cons (.word hd hw) (he e rfl)

/-- The words of a join, and its source. -/
theorem Segment.joinWords {ws : List String} (hws : ws ∈ Parser.joinPhrases) {ps : List Part}
    (h : Written d ps) : Segment d (words (ws ++ ["JOIN"]) ++ ps) := by
  have hall : ∀ ws ∈ Parser.joinPhrases, ws ++ ["JOIN"] ⊆ Lexeme.grammarWords.erase "WITH" := by
    have : ∀ ws ∈ Parser.joinPhrases, ∀ w ∈ ws ++ ["JOIN"], w ∈ Lexeme.grammarWords.erase "WITH" := by
      decide
    exact this
  have hdivides : ∀ p ∈ words (ws ++ ["JOIN"]), Divides d p := by
    intro p hp
    obtain ⟨w, hw, rfl⟩ := List.mem_map.mp hp
    exact .word hd (hall ws hws hw)
  obtain ⟨p, ps', hparts⟩ : ∃ p ps', words (ws ++ ["JOIN"]) = p :: ps' := by
    cases ws <;> exact ⟨_, _, rfl⟩
  rw [hparts] at hdivides ⊢
  obtain ⟨hp, hps⟩ := List.forall_mem_cons.mp hdivides
  exact .cons hp (.consAll hps h)

/-- The words before the projected expressions. -/
theorem Written.leading {o : Outline} (hlimit : ∀ e ∈ o.limit?, e.Shape d) {ps : List Part}
    (h : Written d ps) : Written d (o.leadingParts d ++ ps) := by
  have htop : Written d ((if d.leadingLimit then topParts d (o.limit?.map Outline.clause) else []) ++
      ps) := by
    split
    · cases he : o.limit? with
      | none => simpa [topParts] using h
      | some e =>
        simp only [Option.map_some, Outline.clause, topParts]
        have hshape := hlimit e he
        split
        · rename_i hnumber
          cases e <;> cases hnumber
          have hparts := hshape.phrase.written
          rw [Expr.parts] at hparts ⊢
          exact .cons (.plainWord hd (by decide)) (.cons ⟨hparts, _, rfl, rfl, rfl⟩ h)
        · refine .cons (.plainWord hd (by decide)) ?_
          refine (Segment.between hd hshape.phrase.written (.inl rfl)).written.append h ?_
          intro l hl m _
          rw [getLast?_between] at hl
          cases hl
          exact .inl rfl
    · exact h
  rw [Outline.leadingParts, List.append_assoc]
  split
  · exact .cons (.word hd (by decide)) htop
  · exact htop

/-- The select with all its parts. -/
theorem Outline.Shape.of_parts {o : Outline} (hitems : ∀ e ∈ o.items, e.Shape d)
    (hfrom : ∀ q ∈ o.from?, Written d (q.parts d))
    (hjoins : ∀ j ∈ o.joins, Segment d (joinsParts d [j])) (hwhere : ∀ e ∈ o.where?, e.Shape d)
    (hgroups : ∀ e ∈ o.groups, e.Shape d) (hhaving : ∀ e ∈ o.having?, e.Shape d)
    (hkeys : ∀ e ∈ o.keys, e.Shape d) (hlimit : ∀ e ∈ o.limit?, e.Shape d)
    (hoffset : ∀ e ∈ o.offset?, e.Shape d) (hled : o.offset?.isSome → d.leadingLimit = false) :
    o.Shape d where
  body := by
    have hlisted {es : List Expr} (h : ∀ e ∈ es, e.Shape d) :
        ∀ e ∈ Outline.listed? es, Written d (e.parts d) := by
      cases es with
      | nil => nofun
      | cons e es =>
        intro x hx
        cases hx
        rw [Expr.parts]
        exact Expr.Shape.commas hd h
    have hendings : Segment d (o.endingsParts d) := by
      simp only [Outline.endingsParts, Outline.endings, List.flatMap_cons, List.flatMap_nil]
      refine (Segment.behind hd (by decide) fun e he => (hwhere e he).phrase.written).append <|
        (Segment.behind hd (by decide) (hlisted hgroups)).append <|
        (Segment.behind hd (by decide) fun e he => (hhaving e he).phrase.written).append <|
        (Segment.behind hd (by decide) (hlisted hkeys)).append <|
        (Segment.behind hd (by decide) fun e he => ?limit).append <|
        (Segment.behind hd (by decide) fun e he => (hoffset e he).phrase.written).append .nil
      split at he
      · cases he
      · exact (hlimit e he).phrase.written
    have hjoined : Segment d (joinsParts d o.joins) := by
      generalize o.joins = js at hjoins
      induction js with
      | nil =>
        rw [joinsParts]
        exact .nil
      | cons j js ih =>
        obtain ⟨hj, hjs⟩ := List.forall_mem_cons.mp hjoins
        rw [joinsParts_cons]
        exact hj.append (ih hjs)
    have hsource : Segment d (sourceParts d (o.from?.map Outline.clause)) := by
      cases hq : o.from? with
      | none =>
        rw [Option.map_none, sourceParts]
        exact .nil
      | some q =>
        rw [Option.map_some, Outline.clause, sourceParts]
        exact .cons (.word hd (by decide)) (hfrom q hq)
    exact .leading hd hlimit ((Expr.Shape.commas hd hitems).append_segment
      (hsource.append (hjoined.append hendings)))
  limit e he := (hlimit e he).phrase.ne_nil
  offset := hled

/-- A select by itself is printed as its first word and the parts behind it. -/
theorem Outline.Shape.chain {o : Outline} (h : o.Shape d) : (Query.select o.select).ChainShape d := by
  have hparts : (Query.select o.select).parts d = .word "SELECT" :: o.bodyParts d := by
    rw [Query.parts, selectParts_outline d h.offset h.limit]
  exact ⟨hparts ▸ .cons (.word hd (by decide)) h.body, ⟨_, hparts⟩, .inl ⟨o, rfl⟩, rfl⟩

theorem Query.ChainShape.combined {ws : List String} {o : Outline} (hws : ws ∈ Parser.setPhrases)
    (hq : q.ChainShape d) (ho : o.Shape d) (hled : d.leadingLimit = true → o.limit? = none) :
    (Query.combined ws [] q (.select o.select)).ChainShape d := by
  have hright : (Query.select o.select).ChainShape d := ho.chain hd
  have hwords : ∀ p ∈ words ws, Divides d p := by
    have hall : ∀ ws ∈ Parser.setPhrases, ∀ w ∈ ws, w ∈ Lexeme.grammarWords.erase "WITH" := by decide
    intro p hp
    obtain ⟨w, hw, rfl⟩ := List.mem_map.mp hp
    exact .word hd (hall ws hws w hw)
  have hsegment : Segment d (words ws ++ (Query.select o.select).parts d) := by
    obtain ⟨p, ps, hparts⟩ : ∃ p ps, words ws = p :: ps := by
      cases ws with
      | nil => exact absurd hws (by decide)
      | cons => exact ⟨_, _, rfl⟩
    rw [hparts] at hwords ⊢
    obtain ⟨hp, hps⟩ := List.forall_mem_cons.mp hwords
    exact .cons hp (.consAll hps hright.written)
  have hparts : (Query.combined ws [] q (.select o.select)).parts d =
      q.parts d ++ (words ws ++ (Query.select o.select).parts d) := by
    simp [Query.parts, comments]
  refine ⟨?_, ?_, .inr ⟨ws, q, _, rfl⟩, QueryBook.Sql.parts_withEnd d ho.limit ho.offset hled⟩
  · rw [hparts]
    exact hq.written.append_segment hsegment
  · obtain ⟨ps, hfirst⟩ := hq.first
    exact ⟨_, by rw [hparts, hfirst]; rfl⟩

end

theorem Query.ChainShape.withEnd_kind (h : q.ChainShape d) :
    (∃ o : Outline, Parser.withEnd q = .select o.select) ∨
      (∃ ws cs left right, Parser.withEnd q = .combined ws cs left right) ∨
        ∃ q₀ c, Parser.withEnd q = .refined q₀ c := by
  rcases h.kind with ⟨o, rfl⟩ | ⟨ws, left, right, rfl⟩
  · exact .inl ⟨o, rfl⟩
  · rw [Parser.withEnd]
    dsimp only
    split
    · exact .inr (.inr ⟨_, _, rfl⟩)
    · exact .inr (.inl ⟨_, _, _, _, rfl⟩)

theorem Query.ChainShape.query (h : q.ChainShape d) : (Parser.withEnd q).Shape d := by
  obtain ⟨ps, hfirst⟩ := h.first
  refine ⟨h.parts_withEnd ▸ h.written, ⟨"SELECT", ps, .inl rfl, h.parts_withEnd ▸ hfirst⟩, ?_, ?_⟩ <;>
    rcases h.withEnd_kind with ⟨o, hq⟩ | ⟨ws, cs, left, right, hq⟩ | ⟨q₀, c, hq⟩ <;> rw [hq] <;> rfl

/-! ## Named queries -/

theorem tablesParts_eq {tables : List (CommonTable Expr Query)} (h : ∀ t ∈ tables, t.words = []) :
    tablesParts d tables = tables.map (CommonTable.parts d) := by
  induction tables with
  | nil => rw [tablesParts, List.map_nil]
  | cons t tables ih =>
    obtain ⟨ht, htables⟩ := List.forall_mem_cons.mp h
    obtain ⟨name, ws, q⟩ := t
    obtain rfl : ws = [] := ht
    rw [tablesParts, ih htables, List.map_cons]
    simp [CommonTable.parts, words]

/-- The words of named queries. -/
def withWords (isRecursive : Bool) : List String :=
  if isRecursive then ["WITH", "RECURSIVE"] else ["WITH"]

theorem withParts_eq {isRecursive : Bool} {tables : List (CommonTable Expr Query)}
    (h : ∀ t ∈ tables, t.words = []) : withParts d ⟨[], isRecursive, tables⟩ =
      words (withWords isRecursive) ++ commas (tables.map (CommonTable.parts d)) := by
  rw [withParts, tablesParts_eq h]
  simp [comments, withWords]

/-- A query with named queries in front of it. -/
theorem Query.Shape.named (hd : d ∈ Dialect.all) {isRecursive : Bool}
    {tables : List (CommonTable Expr Query)} {q' : Query}
    (htables : ∀ t ∈ tables, Written d (t.parts d) ∧ t.words = []) (hq : q.ChainShape d)
    (hwith : Parser.withNamed ⟨[], isRecursive, tables⟩ (Parser.withEnd q) = some q') :
    q'.Shape d := by
  have hparts := parts_withNamed d hwith hq.withEnd_kind
  rw [withParts_eq fun t ht => (htables t ht).2, hq.parts_withEnd] at hparts
  have hcommas : Written d (commas (tables.map (CommonTable.parts d))) := by
    refine .commas hd fun ps hps => ?_
    obtain ⟨t, ht, rfl⟩ := List.mem_map.mp hps
    exact (htables t ht).1
  have hselect : Segment d (q.parts d) := by
    obtain ⟨ps, hfirst⟩ := hq.first
    refine ⟨hq.written, fun l hl => ?_⟩
    rw [hfirst] at hl
    cases hl
    decide
  have hword : Written d [.word "WITH"] := .grammarWord hd (by decide)
  have hwords : Written d (words (withWords isRecursive) ++
      (commas (tables.map (CommonTable.parts d)) ++ q.parts d)) := by
    have hmore := hcommas.append_segment hselect
    have hopens : (Lexeme.ofWord "WITH").opens = false := by decide
    have hfirst {ps : List Part} (h : Written d ps) : Written d (.word "WITH" :: ps) :=
      hword.append h fun l hl _ _ => .inl (by cases hl; exact hopens)
    cases isRecursive with
    | false => exact hfirst hmore
    | true => exact hfirst (.cons (.word hd (by decide)) hmore)
  rw [← List.append_assoc, ← hparts] at hwords
  refine ⟨hwords, ?_, ?_, ?_⟩
  · rw [hparts]
    cases isRecursive <;> exact ⟨"WITH", _, .inr rfl, rfl⟩
  all_goals
    rcases hq.withEnd_kind with ⟨o, hkind⟩ | ⟨ws, cs, left, right, hkind⟩ | ⟨q₀, c, hkind⟩ <;>
      rw [hkind] at hwith <;> cases hwith <;> rfl

/-! ## Covered trees -/

/-- A name that is read where it stands, as a part of a path. -/
theorem Expr.Shape.name (hd : d ∈ Dialect.all) (hn : n.Writes l) (hl : l.beginsExpr = true) :
    (Expr.name n).Shape d := by
  refine ⟨rfl, ?_⟩
  rw [Expr.parts]
  exact .name hd hn hl

theorem Expr.lexemes_name (hn : n.Writes l) : (Expr.name n).lexemes d = [l] := by
  rw [Expr.lexemes, Expr.parts, hn.lexemes_parts]

section

variable (hd : d ∈ Dialect.all)
include hd

/-- A name behind a point. -/
theorem Dotted.name (h : Dotted d (e.parts d)) (hne : e.parts d ≠ []) (hn : n.Writes l) :
    Dotted d ((Expr.field e (.name n)).parts d) := by
  have hname : Dotted d ((Expr.name n).parts d) := by
    rw [Expr.parts]
    exact hn.dotted hd
  obtain ⟨hwritten, hlaid⟩ := h.field hd hname.written hne
  rw [Expr.parts]
  exact ⟨hwritten, fun rest hrest => hlaid rest (hname.paused rest hrest)⟩

omit hd in
/-- The last lexeme of a name is no comma. -/
theorem Name.Writes.ends (hn : n.Writes l) : (lexemes (n.parts d)).getLast? ≠ some (.symbol ",") := by
  rw [hn.lexemes_parts]
  cases hn with
  | @plain s => rcases Lexeme.ofWord_cases s with h | ⟨kind, h⟩ <;> simp [h]
  | quoted => simp

theorem Node.Shape.path_name (hn : n.Writes l) (hl : l.namesColumn = true) :
    (Node.path (.name n)).Shape d := by
  refine ⟨.name hd hn (Lexeme.beginsExpr_of_namesColumn hl), ?_, ?_⟩
  · rw [Expr.parts]
    exact hn.dotted hd
  · simpa [Expr.lexemes_name hn] using hl

/-- A member of a path, which is a name or a star. -/
theorem Expr.Shape.field {m : Expr} (h : e.Shape d) (hdot : Dotted d (e.parts d))
    (hm : Written d (m.parts d)) (hends : (Layout.lexemes (m.parts d)).getLast? ≠ some (.symbol ","))
    (hne : Layout.lexemes (m.parts d) ≠ []) : (Expr.field e m).Shape d := by
  refine ⟨rfl, ?_⟩
  rw [Expr.parts]
  exact .field hd h.phrase hdot hm hends hne

theorem Node.Shape.path_field (h : (Node.path e).Shape d) (hn : n.Writes l) :
    (Node.path (.field e (.name n))).Shape d := by
  obtain ⟨hshape, hdot, hhead⟩ := h
  refine ⟨.field hd hshape hdot ?_ ?_ ?_, hdot.name hd hshape.phrase.ne_nil hn, ?_⟩
  · rw [Expr.parts]
    exact (hn.dotted hd).written
  · rw [Expr.parts]
    exact hn.ends
  · rw [Expr.parts, hn.lexemes_parts]
    exact List.cons_ne_nil _ _
  · rwa [Expr.lexemes_field, Lexeme.head?_append hshape.lexemes_ne_nil]

theorem Node.Shape.source_name (hn : n.Writes l) (hl : l.namesSource = true) :
    (Node.source (.name n)).Shape d := by
  refine ⟨rfl, ?_, l, [], Expr.lexemes_name hn, hl, rfl⟩
  rw [Expr.parts]
  exact hn.dotted hd

theorem Node.Shape.source_field (h : (Node.source e).Shape d) (hn : n.Writes l) :
    (Node.source (.field e (.name n))).Shape d := by
  obtain ⟨-, hdot, m, ms, hlexemes, hm, hms⟩ := h
  have hne : e.parts d ≠ [] := by
    rintro hnil
    simp [Expr.lexemes, hnil] at hlexemes
  refine ⟨rfl, hdot.name hd hne hn, m, ms ++ [.symbol ".", l], ?_, hm, ?_⟩
  · simp [Expr.lexemes_field, Expr.lexemes_name hn, hlexemes]
  · cases ms <;> simp_all

/-- The star of all columns. -/
theorem Expr.Shape.star : Expr.star.Shape d := by
  refine .of_part rfl (by rw [Expr.parts]) (Divides.symbol hd (by decide)).written ?_ (by simp)
  exact ⟨rfl, ⟨_, _, rfl, rfl⟩, .inr ⟨_, _, rfl, by decide, by decide⟩⟩

theorem Expr.Shape.word (hw : e = .word "CURRENT_DATE") : e.Shape d := by
  subst hw
  refine ⟨rfl, ?_⟩
  rw [Expr.parts]
  exact .grammarWord hd (by decide) .nil nofun

end

/-- A numeral has no other capital form. -/
theorem capital_of_isDigit {c : Char} (hc : c.isDigit = true) : capital c = [c] := by
  simp only [Char.isDigit, Bool.and_eq_true, decide_eq_true_eq, ge_iff_le] at hc
  have hle : c.toNat ≤ 57 := hc.2
  have hascii : c.toNat < 0x80 := by omega
  have hupper : c.toUpper = c := by
    unfold Char.toUpper
    split
    · rename_i h
      have hlower : 97 ≤ c.toNat := h.1
      omega
    · rfl
  rw [capital, if_pos hascii, hupper]

theorem isNumeral_head {s : String} (hs : isNumeral s = true) :
    ∃ c cs, s.toList = c :: cs ∧ c.isDigit = true := by
  cases h : s.toList with
  | nil => simp [isNumeral, h] at hs
  | cons c cs =>
    simp only [isNumeral, h, Bool.and_eq_true] at hs
    exact ⟨c, cs, rfl, hs.1⟩

/-- A number is no word. -/
theorem Lexeme.isTame_number {s : String} (hs : isNumeral s = true) :
    (Lexeme.number s).isTame = true := by
  obtain ⟨c, cs, hchars, hc⟩ := isNumeral_head hs
  have hreads : (Lexeme.number s).reads "VALUES" = false := by
    refine beq_eq_false_iff_ne.mpr fun heq => ?_
    have hhead : (upper s).toList.head? = some c := by
      simp [upper, hchars, capital_of_isDigit hc]
    have hcapital : (upper s).toList.head? = some 'V' := by
      rw [show upper s = "VALUES" from heq]
      rfl
    rw [hhead] at hcapital
    cases hcapital
    exact absurd hc (by decide)
  simp [isTame, isSymbol, isKeyword, hreads]

/-- A named query between parentheses. -/
theorem Written.table (hd : d ∈ Dialect.all) {t : CommonTable Expr Query}
    (hname : Written d (t.name.parts d)) (hq : Written d (t.query.parts d)) :
    Written d (t.parts d) :=
  hname.glue (.word hd (by decide)) (Segment.between hd hq (.inl rfl)).written

theorem Lexeme.not_with_of_namesTable (hl : l.namesTable = true) :
    l.isKeyword "WITH" = false ∧ l.isKeyword "RECURSIVE" = false := by
  cases l with
  | keyword kind s =>
    have hwith : kind ≠ "WITH" := by
      rintro rfl
      have hnot : Keyword.isName "WITH" = false := by decide
      simp [namesTable, namesSource, Parser.isWordOf, hnot] at hl
    simp_all [namesTable]
  | _ => exact ⟨rfl, rfl⟩

theorem joinPhrases_ne {ws : List String} (hws : ws ∈ Parser.joinPhrases) :
    (ws == ["STRAIGHT_JOIN"]) = false := by
  revert ws
  decide

/-- The first word of a join. -/
theorem joinWords_head {ws : List String} (hws : ws ∈ Parser.joinPhrases) (ps : List Part) :
    ∃ l ms, lexemes (words (ws ++ ["JOIN"]) ++ ps) = l :: ms ∧ l ∈ Level.behindJoin := by
  have hall : ∀ ws ∈ Parser.joinPhrases,
      ((ws ++ ["JOIN"]).map Lexeme.ofWord).head?.any (Level.behindJoin.contains ·) = true := by
    decide
  have hhead := hall ws hws
  rw [lexemes_append, lexemes_words]
  cases h : (ws ++ ["JOIN"]).map Lexeme.ofWord with
  | nil => simp [h] at hhead
  | cons l ms => exact ⟨l, ms ++ lexemes ps, rfl, by simpa [h] using hhead⟩

theorem Covered.shape (hd : d ∈ Dialect.all) {node : Node} (h : Covered d node) :
    node.Shape d := by
  induction h with
  | name hn hl => exact .path_name hd hn hl
  | field he hn hl ih => exact .path_field hd ih hn
  | sourceName hn hl => exact .source_name hd hn hl
  | sourceField he hn hl ih => exact .source_field hd ih hn
  | column he ih => exact ⟨ih.1, by decide⟩
  | typeName hn hl hlevel =>
    refine ⟨.name hd hn (Lexeme.beginsExpr_of_namesType hl), ?_⟩
    rcases hlevel with rfl | ⟨rfl, -⟩ <;> decide
  | @bound s hs ht hdialect =>
    refine ⟨.of_part rfl (by rw [Expr.parts, Name.parts]) (.placeholder hd hs ht hdialect) ?_ ?_,
      by decide⟩
    · have hchars : markChars d (.placeholder s) = ':' :: s.toList := by
        simp [markChars, hdialect]
      exact ⟨rfl, ⟨_, _, rfl, rfl⟩, .inr ⟨_, _, hchars, by decide, by decide⟩⟩
    · have hlexemes : (⟨true, .placeholder s⟩ : Part).lexemes = [.symbol ":", .ofWord s] := rfl
      rw [hlexemes]
      rcases Lexeme.ofWord_cases s with h | ⟨kind, h⟩ <;> simp [h]
  | anonymous hdialect =>
    refine ⟨.of_part rfl (by rw [Expr.parts, Name.parts]) (.anonymous hd hdialect) ?_ (by decide),
      by decide⟩
    have hchars : markChars d .anonymous = ['?'] := by
      rw [markChars, hdialect]
      rfl
    exact ⟨rfl, ⟨_, _, rfl, rfl⟩, .inr ⟨_, _, hchars, by decide, by decide⟩⟩
  | @number s hs =>
    refine ⟨.of_part rfl (by rw [Expr.parts]) (.number hs (Lexeme.isTame_number hs)) ?_ (fun h => by cases h),
      by decide⟩
    obtain ⟨c, cs, hchars, hc⟩ := isNumeral_head hs
    refine ⟨rfl, ⟨_, _, rfl, rfl⟩, .inr ⟨c, cs, hchars, ?_, ?_⟩⟩ <;> rintro rfl <;> cases hc
  | text s =>
    refine ⟨.of_part rfl (by rw [Expr.parts]) (.text hd s) ?_ (fun h => by cases h), by decide⟩
    exact ⟨rfl, ⟨_, _, rfl, rfl⟩, .inr ⟨_, _, rfl, by decide, by decide⟩⟩
  | null => exact ⟨.constant hd (.inl rfl), by decide⟩
  | truth hc hdialect => exact ⟨.constant hd (.inr hdialect), by decide⟩
  | today => exact ⟨.word hd rfl, by decide⟩
  | negative he ih => exact ⟨.negative hd ih.1, by decide⟩
  | group he hq ih => exact ⟨.group hd ih.1.phrase.written, by decide⟩
  | tuple hes hq ih => exact ⟨.tuple hd fun x hx => (ih x hx).1, by decide⟩
  | subquery hq ih => exact ⟨.nested hd ih.written, by decide⟩
  | call hf hes ih => exact ⟨.call hd hf.name (Expr.Shape.commas hd ih), by decide⟩
  | callDistinct hne hf hes ih =>
    refine ⟨.call hd hf.name ?_, by decide⟩
    simpa [exprsParts, Expr.parts, commas, separated] using
      Written.cons (.word hd (by decide)) (Expr.Shape.commas hd fun x hx => (ih x hx).1)
  | windowed hf hes hgroups hkeys ih ihgroups ihkeys =>
    exact ⟨.windowed hd (.call hd hf.name (Expr.Shape.commas hd ih)) (fun x hx => (ihgroups x hx).1) ihkeys,
      by decide⟩
  | cast he hs ht hhead hplain hprinted hsizes ih =>
    exact ⟨.cast hd ih.1 (Expr.Shape.type hd hs ht fun size hsize =>
      ⟨hsizes size hsize, Lexeme.isTame_number (hsizes size hsize)⟩), by decide⟩
  | «exists» hq ih => exact ⟨.exists_ hd ih.written, by decide⟩
  | case hsubject hne htests hresults hotherwise ihsubject ihtests ihresults ihotherwise =>
    exact ⟨.case hd (fun e he => (ihsubject e he).1) (fun b hb => (ihtests b hb).1)
      (fun b hb => (ihresults b hb).1) fun e he => (ihotherwise e he).1, by decide⟩
  | rise hlevel he ih => exact ⟨ih.1, hlevel⟩
  | binary hl hsign hop hleft hright hopen ihleft ihright =>
    exact ⟨.binary hd (BinaryOp.printed_of_operators hl hsign) ihleft.1 ihright.1 hopen, ihleft.2⟩
  | not he ih => exact ⟨.not hd ih.1, by decide⟩
  | between he hlow hhigh hhead ih ihlow ihhigh =>
    exact ⟨.between hd ih.1 ihlow.1 ihhigh.1, by decide⟩
  | pattern hop he hpattern hopen ih ihpattern =>
    have hprinted : [BinaryOp.like, .notLike, .ilike, .notIlike] ⊆ BinaryOp.printed :=
      List.subset_def.mpr (by decide)
    exact ⟨.binary hd (hprinted hop) ih.1 ihpattern.1 hopen, by decide⟩
  | isConstant he hc hopen ih =>
    exact ⟨.binary hd (by decide) ih.1 (.constant hd hc) ⟨hopen, rfl⟩, by decide⟩
  | @isDistinct isNegated _ _ he hright hopen ih ihright =>
    exact ⟨.binary hd (by cases isNegated <;> decide) ih.1 ihright.1 hopen, by decide⟩
  | oneOf he hne hes hq ih ihes => exact ⟨.oneOf hd ih.1 (.tuple hd fun x hx => (ihes x hx).1), by decide⟩
  | oneOfQuery he hq ih ihq => exact ⟨.oneOf hd ih.1 (.nested hd ihq.written), by decide⟩
  | argument he ih => exact ih.1
  | argumentStar => exact .star hd
  | item he ih => exact ih.1
  | itemAliased he hn hl ih =>
    refine ⟨rfl, ?_⟩
    rw [Expr.parts, Expr.parts]
    refine ih.1.phrase.append_segment (.cons (.word hd (by decide)) (hn.dotted hd).written) ?_
    rw [lexemes_cons, List.getLast?_append_of_ne_nil]
    · exact hn.ends
    · rw [hn.lexemes_parts]
      exact List.cons_ne_nil _ _
  | itemStar => exact .star hd
  | itemStarOf he ih =>
    have hstar := (Expr.Shape.star hd).phrase
    exact .field hd ih.1 ih.2.1 hstar.written hstar.ends hstar.lexemes_ne_nil
  | key direction nullsFirst he ih => exact .sorted hd direction nullsFirst ih.1
  | table he hq ih =>
    refine ⟨hq.written hd ?_, hq.ne_values fun _ h => by cases h⟩
    rw [Query.parts]
    exact ih.2.1.written
  | derived hq hq' ih =>
    refine ⟨hq'.written hd ?_, hq'.ne_values fun _ h => by cases h⟩
    rw [Query.parts]
    exact (Segment.between hd ih.written (.inl rfl)).written
  | joinComma hq ih =>
    simp only [Node.Shape, joinsParts_comma]
    exact ⟨.cons (.comma hd) ih.1, _, _, rfl, by decide⟩
  | joinBare hws hne hq hnested ih =>
    simp only [Node.Shape, joinsParts_bare d hne (joinPhrases_ne hws)]
    exact ⟨.joinWords hd hws ih.1, joinWords_head hws _⟩
  | joinOn hws hq he ih ihe =>
    simp only [Node.Shape, joinsParts_on d (joinPhrases_ne hws)]
    exact ⟨.joinWords hd hws (ih.1.glue (.word hd (by decide)) ihe.1.phrase.written),
      joinWords_head hws _⟩
  | @joinUsing ws q ns hws hq hne hns ih ihns =>
    have hnames : ns.map Expr.name ≠ [] := by simpa using hne
    simp only [Node.Shape, joinsParts_using d (joinPhrases_ne hws) _ hnames]
    refine ⟨.joinWords hd hws (ih.1.glue (.word hd (by decide)) (Segment.between hd ?_
      (.inl rfl)).written), joinWords_head hws _⟩
    refine Expr.Shape.commas hd fun x hx => ?_
    obtain ⟨n, hn, rfl⟩ := List.mem_map.mp hx
    exact (ihns n hn).1
  | select hne hitems htop hfrom hjoins hsource hwhere hgroups hgrouping hhaving hkeys hlimit hcount
      hoffset hends ihitems ihfrom ihjoins ihwhere ihgroups ihhaving ihkeys ihlimit ihoffset =>
    exact .of_parts hd ihitems (fun q hq => (ihfrom q hq).1) (fun j hj => (ihjoins j hj).1)
      (fun e he => (ihwhere e he).1) (fun e he => (ihgroups e he).1) (fun e he => (ihhaving e he).1)
      ihkeys (fun e he => (ihlimit e he).1) (fun e he => (ihoffset e he).1) fun h => (hends h).1
  | chain ho ih => exact ih.chain hd
  | combined hws hleft ho hexcept hled ihleft iho => exact ihleft.combined hd hws iho hled
  | query hq ih => exact ih.query
  | withTables hne htables hq hwith ihtables ihq =>
    exact .named hd (fun t ht => ⟨(ihtables t ht).1, (ihtables t ht).2.1⟩) ihq hwith
  | named hn hl hq ih =>
    refine ⟨.table hd ?_ ih.written, rfl, _, [], Expr.lexemes_name hn, Lexeme.not_with_of_namesTable hl⟩
    rw [Expr.parts]
    exact (hn.dotted hd).written
  | @namedColumns n l ns q hn hl hf hne hns hq ih =>
    have hnames : Written d (commas (exprsParts d (ns.map .name))) := by
      refine .commas hd fun ps hps => ?_
      rw [exprsParts_eq, List.map_map] at hps
      obtain ⟨m, hm, rfl⟩ := List.mem_map.mp hps
      obtain ⟨l, hl, -⟩ := hns m hm
      simpa [Expr.parts] using (hl.dotted hd).written
    have hparts := Expr.parts_call d hf (ns.map .name)
    have hlexemes : (Expr.call n (ns.map .name)).lexemes d =
        l :: lexemes (Layout.between (.joined "(") (commas (exprsParts d (ns.map .name)))) := by
      rw [Expr.lexemes, hparts, lexemes_append, hn.lexemes_parts]
      rfl
    refine ⟨.table hd ?_ ih.written, rfl, _, _, hlexemes, Lexeme.not_with_of_namesTable hl⟩
    rw [hparts]
    exact (hn.dotted hd).written.append_segment (.between hd hnames (.inr rfl))

end QueryBook.Sql
