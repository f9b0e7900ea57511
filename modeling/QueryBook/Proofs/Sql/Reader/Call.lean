import QueryBook.Proofs.Sql.Reader.Argument

/-!
# Reading calls

A call is read by its name and the parenthesis behind it. The words about a group of rows and the
window of a call stand behind the closing parenthesis.
-/

namespace QueryBook.Sql

open Lexeme (kw lastOf)

namespace Lexeme

/-- Whether the lexeme is the name of a function that has no grammar of its own. -/
def namesCall (l : Lexeme) : Bool :=
  (match l with
    | .word _ => true
    | .keyword kind _ => Keyword.isFunction kind && !(["ALL", "ANY", "EXISTS", "SOME"].contains kind)
    | _ => false) &&
    !Parser.leadingFunctions.contains (Text.upper l.content) && !Parser.hasGrammar (Text.upper l.content)

end Lexeme

namespace Parser

variable {α : Type} {g : Grammar} {ls ms rest : List Lexeme} {e : Expr}

/-! ## Windows -/

/-- Words about a group do not begin with the lexeme. -/
def noGroupWords (ls : List Lexeme) : Prop :=
  ls.head?.any (fun l => l.reads "WITHIN" || l.isKeyword "FILTER" || l.reads "IGNORE" ||
    l.reads "RESPECT") = false

theorem noGroupWords_of_follows (h : Follows .operand rest) : noGroupWords rest := by
  unfold noGroupWords
  have hreads (word : String) (hw : word ∈ ["WITHIN", "IGNORE", "RESPECT"]) :
      rest.head?.any (·.reads word) = false := by
    refine h.head_reads word ?_
    revert word
    decide
  have hfilter : rest.head?.any (·.isKeyword "FILTER") = false := h.head_any (by decide)
  cases hrest : rest.head? with
  | none => rfl
  | some l =>
    have h1 := hreads "WITHIN" (by simp)
    have h2 := hreads "IGNORE" (by simp)
    have h3 := hreads "RESPECT" (by simp)
    simp_all

/-- Where neither words about a group nor a window follow, an expression stays as it is. -/
theorem windowed_leaves (he : e.bare = e) (hnulls : outerNulls e = (e, []))
    (hg : noGroupWords rest) (hover : rest.head?.any (·.isKeyword "OVER") = false) :
    Leaves (windowed g e) e rest := by
  intro last?
  have hwithin : Leaves (reads ["WITHIN", "GROUP"]) false rest :=
    reads_leaves (any_eq_false hg (by simp_all))
  have hfilter : Leaves (acceptBoth (·.isKeyword "FILTER") (·.isSymbol "(")) false rest :=
    fun last? => run_acceptBoth_of_not _ _ (.inl (any_eq_false hg (by simp_all)))
  have hignore : Leaves (reads ["IGNORE", "NULLS"]) false rest :=
    reads_leaves (any_eq_false hg (by simp_all))
  have hrespect : Leaves (reads ["RESPECT", "NULLS"]) false rest :=
    reads_leaves (any_eq_false hg (by simp_all))
  simp only [windowed, groupOrder, hwithin last?, filter, hfilter last?, he, hnulls, nullsWords,
    hignore last?, hrespect last?, keyword_leaves _ hover last?, comments_of_bare he, run_bind,
    run_pure, run_ite, run_discard, run_taken, Option.bind_some, Option.toList_none,
    List.append_assoc, List.nil_append, List.isEmpty_nil, List.map_nil, if_false, ite_self,
    Bool.false_eq_true, annotated_nil]

/-- An expression over a window. -/
theorem windowed_reads_over {w : Expr} (he : e.bare = e) (hnulls : outerNulls e = (e, []))
    (hw : Reads (window g) ls w rest) :
    Reads (windowed g e) (kw "OVER" :: .symbol "(" :: ls) (e.related "OVER" w) rest := by
  intro last?
  have hwithin : Leaves (reads ["WITHIN", "GROUP"]) false (kw "OVER" :: .symbol "(" :: (ls ++ rest)) :=
    reads_leaves (by decide : (kw "OVER").reads "WITHIN" = false)
  have hfilter : Leaves (acceptBoth (·.isKeyword "FILTER") (·.isSymbol "(")) false
      (kw "OVER" :: .symbol "(" :: (ls ++ rest)) :=
    fun last? => run_acceptBoth_of_not _ _ (.inl (by rfl))
  have hignore : Leaves (reads ["IGNORE", "NULLS"]) false
      (kw "OVER" :: .symbol "(" :: (ls ++ rest)) :=
    reads_leaves (by decide : (kw "OVER").reads "IGNORE" = false)
  have hrespect : Leaves (reads ["RESPECT", "NULLS"]) false
      (kw "OVER" :: .symbol "(" :: (ls ++ rest)) :=
    reads_leaves (by decide : (kw "OVER").reads "RESPECT" = false)
  simp only [windowed, groupOrder, hwithin last?, filter, hfilter last?, he, hnulls, nullsWords,
    hignore last?, hrespect last?, windowOrName, hw _, comments_of_bare he, run_bind, run_pure,
    run_ite, run_discard, run_taken, run_madeWith, run_keyword, run_symbol, Option.bind_some,
    Option.map_some, Option.toList_none, List.append_assoc, List.cons_append, List.nil_append,
    List.isEmpty_nil, List.map_nil, if_true, if_false, ite_self, Bool.false_eq_true,
    beq_self_eq_true, String.reduceBEq, Lexeme.isKeyword_keyword, Lexeme.isSymbol_symbol,
    Lexeme.lastOf_cons, annotated_nil]

/-- The keys of a window behind their words. -/
def windowParts (groups keys : List Expr) : List Expr :=
  (if groups = [] then [] else [.word "PARTITION BY", .listed groups]) ++
    (if keys = [] then [] else [.word "ORDER BY", .listed keys])

/-- Lexemes are a list behind a word, or none if the list is empty. -/
def ListsBehind (word : String) (p : Parser (List Expr)) (ls : List Lexeme) (es : List Expr)
    (rest : List Lexeme) : Prop :=
  es = [] ∧ ls = [] ∨ es ≠ [] ∧ ∃ ms, ls = kw word :: ms ∧ Reads p ms es rest

theorem order_reads {keys : List Expr}
    (h : ListsBehind "ORDER BY" (separated (sortKey g)) ls keys rest)
    (hrest : rest.head?.any (·.isKeyword "ORDER BY") = false) :
    Reads (order g) ls (if keys = [] then none else some (.listed keys)) rest := by
  intro last?
  obtain ⟨rfl, rfl⟩ | ⟨hne, ls, rfl, hread⟩ := h
  · simp [order, keyword_leaves _ hrest last?]
  · simp [order, someOf, hread _, hne]

/-- A window of groups and sort keys. -/
theorem window_reads {groups keys : List Expr}
    (hg : ListsBehind "PARTITION BY" (separated g.disjunction) ls groups
      (ms ++ .symbol ")" :: rest))
    (hk : ListsBehind "ORDER BY" (separated (sortKey g)) ms keys (.symbol ")" :: rest)) :
    Reads (window g) (ls ++ (ms ++ [.symbol ")"])) (.group (.phrase (windowParts groups keys)))
      rest := by
  intro last?
  have hbase : Leaves (nameWhere g false isWindowName) none
      (ls ++ (ms ++ .symbol ")" :: rest)) := by
    apply nameWhere_leaves
    obtain ⟨-, rfl⟩ | ⟨-, ls, rfl, -⟩ := hg
    · obtain ⟨-, rfl⟩ | ⟨-, ms, rfl, -⟩ := hk <;> rfl
    · rfl
  have horder := order_reads hk rfl
  have hframe : Leaves (frame g) [] (.symbol ")" :: rest) := fun last? => by
    simp [frame, keywordOf]
  have htokens : ls ++ (ms ++ [.symbol ")"]) ++ rest = ls ++ (ms ++ .symbol ")" :: rest) := by simp
  simp only [htokens, window, run_bind, hbase last?, Option.bind_some]
  obtain ⟨rfl, rfl⟩ | ⟨hne, ls, rfl, hread⟩ := hg
  · have hkey : Leaves (keyword "PARTITION BY") false (ms ++ .symbol ")" :: rest) := by
      apply keyword_leaves
      obtain ⟨-, rfl⟩ | ⟨-, ms, rfl, -⟩ := hk <;> rfl
    by_cases hkeys : keys = [] <;>
      simp [hkey _, horder _, hkeys, hframe _, expectSymbol, windowParts]
  · by_cases hkeys : keys = [] <;>
      simp [hread _, hne, horder _, hkeys, hframe _, expectSymbol, windowParts]

/-! ## Calls -/

theorem functionCall_reads {l : Lexeme} {es : List Expr} (hl : ∀ s, l ≠ .quoted s)
    (hargs : ∀ canAlias, Reads (arguments g canAlias) ls es rest)
    (hknown : isKnownCall (Text.upper l.content) = true →
      knownCall (Text.upper l.content) es = some (.calling (Text.upper l.content) es)) :
    Reads (functionCall g l false) ls (.calling (Text.upper l.content) es) rest := by
  intro last?
  by_cases h : isKnownCall (Text.upper l.content) = true
  · simp [functionCall, h, hargs _ last?, hknown h]
  · simp [functionCall, h, hargs _ last?]

theorem testCall_leaves {kind : String} (h : ["ALL", "ANY", "EXISTS", "SOME"].contains kind = false)
    (before c : Cursor) (isPattern : Bool) :
    testCall g kind before isPattern c = some (none, c) := by
  simp only [testCall, h]
  rfl

/-- The call of a function, with what stands behind its parentheses. -/
theorem functionWith_reads {part : Parser (Option Expr)} {canBeBare : Bool} {l : Lexeme} {e' : Expr}
    (hl : l.namesCall = true)
    (hcall : Reads (functionCall g l false) ls e (.symbol ")" :: (ms ++ rest)))
    (hw : Reads (windowed g e) ms e' rest) :
    Reads (functionWith g part canBeBare false false) (l :: .symbol "(" :: (ls ++ .symbol ")" :: ms))
      (some e') rest := by
  intro last?
  simp only [Lexeme.namesCall, Bool.and_eq_true, Bool.not_eq_true'] at hl
  obtain ⟨⟨hkind, hlead⟩, hgrammar⟩ := hl
  have hname : isFunctionName l = true := by
    cases l with
    | word => rfl
    | keyword kind s => exact (Bool.and_eq_true_iff.mp hkind).1
    | _ => cases hkind
  have hrun : l :: .symbol "(" :: (ls ++ .symbol ")" :: ms) ++ rest =
      l :: .symbol "(" :: (ls ++ .symbol ")" :: (ms ++ rest)) := by simp
  simp only [hrun, functionWith, run_bind, run_get, run_ahead?, Option.bind_some, List.head?_cons]
  refine (congrFun (if_neg ?_) _).trans ?_
  · simp only [hlead, Bool.and_false, Bool.false_eq_true, not_false_eq_true]
  · cases l with
    | word s => simp [hname, hgrammar, hcall _, hw _, annotated_nil]
    | keyword kind s =>
      have htest := testCall_leaves (g := g) (by simpa using (Bool.and_eq_true_iff.mp hkind).2)
      simp [hname, hgrammar, htest _ _ _, hcall _, hw _, annotated_nil]
    | _ => cases hkind

/-- The word of a cast. -/
def castWord (isTry : Bool) : String :=
  if isTry then "TRY_CAST" else "CAST"

theorem castCall_reads {isTry : Bool} {t : Expr}
    (he : Reads g.disjunction ls (some e) (kw "AS" :: (ms ++ .symbol ")" :: rest)))
    (ht : Reads (g.type false) ms (some t) (.symbol ")" :: rest)) :
    Reads (castCall g isTry) (ls ++ kw "AS" :: ms) (.cast isTry e t) (.symbol ")" :: rest) := by
  intro last?
  simp only [castCall, required, he _, ht _, run_bind, run_pure, run_ite, run_failure, run_orM,
    run_made, run_keyword, run_symbol, Option.bind_some, Option.bind_none, Option.getD_some,
    List.append_assoc, List.cons_append, List.nil_append, if_true, if_false, Bool.false_eq_true,
    beq_self_eq_true, String.reduceBEq, Lexeme.isKeyword_keyword, Lexeme.isKeyword_symbol,
    Lexeme.isSymbol_symbol, Lexeme.lastOf_append, Lexeme.lastOf_cons]

/-- A cast, between its parentheses. -/
theorem functionWith_reads_cast {part : Parser (Option Expr)} {canBeBare isTry : Bool} {t : Expr}
    (he : Reads g.disjunction ls (some e) (kw "AS" :: (ms ++ .symbol ")" :: rest)))
    (ht : Reads (g.type false) ms (some t) (.symbol ")" :: rest))
    (hw : Leaves (windowed g (.cast isTry e t)) (.cast isTry e t) rest) :
    Reads (functionWith g part canBeBare false false)
      (.word (castWord isTry) :: .symbol "(" :: (ls ++ kw "AS" :: (ms ++ [.symbol ")"])))
      (some (.cast isTry e t)) rest := by
  intro last?
  have hcall : Reads (grammarCall g (castWord isTry) part) (ls ++ kw "AS" :: ms) (.cast isTry e t)
      (.symbol ")" :: rest) := by
    cases isTry <;> exact castCall_reads he ht
  have hname : Text.upper (castWord isTry) = castWord isTry := by
    cases isTry <;> decide
  have hgrammar : hasGrammar (castWord isTry) = true := by
    cases isTry <;> decide
  have hlead : leadingFunctions.contains (castWord isTry) = false := by
    cases isTry <;> decide
  have hrun := hcall (some (.symbol "("))
  simp only [List.append_assoc, List.cons_append] at hrun
  have htokens : .word (castWord isTry) :: .symbol "(" :: (ls ++ kw "AS" :: (ms ++ [.symbol ")"])) ++ rest =
      .word (castWord isTry) :: .symbol "(" :: (ls ++ kw "AS" :: (ms ++ .symbol ")" :: rest)) := by
    simp
  simp only [htokens, functionWith, run_bind, run_get, run_ahead?, Option.bind_some, List.head?_cons,
    Lexeme.content, hname, hlead, Bool.and_false, Bool.false_eq_true, if_false]
  simp only [isFunctionName, hgrammar, hrun, hw _, run_bind, run_pure, run_ite,
    run_get, run_second?, run_last?, run_advance, run_pending, run_made, run_symbol,
    Option.bind_some, Option.any_some, List.getElem?_cons_zero, List.getElem?_cons_succ, if_true,
    ite_self, Bool.and_true, Bool.not_false, beq_self_eq_true, Lexeme.isSymbol_symbol,
    Lexeme.lastOf_append, Lexeme.lastOf_cons, Lexeme.lastOf_nil, annotated_nil]

/-- The test of a query, between its parentheses. -/
theorem functionWith_reads_exists {part : Parser (Option Expr)} {canBeBare : Bool} {l : Lexeme}
    {q : Query} (hq : Reads (g.query .alone) (l :: ls) (some q) (.symbol ")" :: rest))
    (hl : l.isKeyword "SELECT" = true ∨ l.isKeyword "WITH" = true) :
    Reads (functionWith g part canBeBare false false)
      (kw "EXISTS" :: .symbol "(" :: (l :: ls ++ [.symbol ")"])) (some (.calling "EXISTS" [.query q]))
      rest := by
  intro last?
  have hname : Text.upper "EXISTS" = "EXISTS" := by decide
  have hlead : leadingFunctions.contains "EXISTS" = false := by decide
  have hgrammar : hasGrammar "EXISTS" = false := by decide
  have hfunction : Keyword.isFunction "EXISTS" = true := by decide
  have hquery := hq (some (.symbol "("))
  simp only [List.cons_append] at hquery
  have htest (isPattern : Bool) (before : Cursor) : testCall g "EXISTS" before isPattern
      (.before (some (.symbol "(")) (l :: (ls ++ .symbol ")" :: rest))) =
        some (some (.calling "EXISTS" [.query q]), .before (some (.symbol ")")) rest) := by
    simp [testCall, hl, required, hquery, expectSymbol, queryTest]
  simp only [List.cons_append, List.append_assoc, List.nil_append, functionWith, run_bind, run_get,
    run_ahead?, Option.bind_some, List.head?_cons, Lexeme.content, hname, hlead, Bool.and_false,
    Bool.false_eq_true, if_false]
  simp only [isFunctionName, hfunction, hgrammar, htest _ _, run_bind, run_pure, run_ite, run_get,
    run_second?, run_last?, run_advance, run_pending, run_madeWith, Option.bind_some,
    Option.any_some, List.getElem?_cons_zero, List.getElem?_cons_succ, if_true, if_false,
    Bool.false_eq_true, Bool.and_false, Bool.not_false, beq_self_eq_true, Lexeme.isSymbol_symbol,
    Lexeme.lastOf_append, Lexeme.lastOf_cons, Lexeme.lastOf_nil, annotated_nil]

/-! ## Cases -/

theorem branch_reads {ts rs : List Lexeme} {test result : Expr}
    (ht : Reads g.disjunction ts (some test) (kw "THEN" :: (rs ++ rest)))
    (hr : Reads g.disjunction rs (some result) rest) :
    Reads (branch g) (kw "WHEN" :: (ts ++ kw "THEN" :: rs)) (some (test, result)) rest := by
  intro last?
  simp only [branch, required, ht _, hr _, run_bind, run_pure, run_ite, run_discard, run_taken,
    run_keyword, Option.bind_some, Option.map_some, List.append_assoc, List.cons_append, if_true,
    beq_self_eq_true, Lexeme.isKeyword_keyword, Lexeme.lastOf_append, Lexeme.lastOf_cons]

/-- A case by its subject, if there is one, its branches and what else it is. -/
theorem case_reads {c : Cursor} {ss bs es : List Lexeme} {subject otherwise : Option Expr}
    {branches : List (Expr × Expr)} (hne : branches ≠ [])
    (hs : Reads g.disjunction ss subject (bs ++ (es ++ kw "END" :: rest)))
    (hb : Reads (many (branch g)) bs branches (es ++ kw "END" :: rest))
    (he : es = [] ∧ otherwise = none ∨
      ∃ ms e, es = kw "ELSE" :: ms ∧ otherwise = some e ∧
        Reads g.disjunction ms (some e) (kw "END" :: rest))
    (hpoint : (ss ++ bs).head?.any (·.isSymbol ".") = false) (hfirst : ss ++ bs ≠ []) :
    Reads (case g c) (ss ++ (bs ++ (es ++ [kw "END"]))) (some (.case subject branches otherwise))
      rest := by
  intro last?
  have hsees : Leaves (sees (·.isSymbol ".")) false (ss ++ (bs ++ (es ++ kw "END" :: rest))) :=
    fun last? => by rw [run_sees, ← List.append_assoc, Lexeme.head?_append hfirst, hpoint]
  obtain ⟨rfl, rfl⟩ | ⟨ms, e, rfl, rfl, hread⟩ := he
  · simp only [List.nil_append] at hs hb hsees
    simp only [case, run_bind, List.append_assoc, List.nil_append, List.cons_append, hsees _,
      Option.bind_some, Bool.false_eq_true, if_false, run_ite, run_pending, hs _, someOf, hb _]
    simp [hne]
  · simp only [List.cons_append] at hs hb hsees
    simp only [case, run_bind, List.append_assoc, List.nil_append, List.cons_append, hsees _,
      Option.bind_some, Bool.false_eq_true, if_false, run_ite, run_pending, hs _, someOf, hb _]
    simp [hne, hread _]

/-- A case as a whole, which no window follows. -/
theorem functionWith_reads_case {part : Parser (Option Expr)} {isAnonymous isCertain : Bool}
    (h : ∀ c, Reads (case g c) ls (some e) rest) (hw : Leaves (windowed g e) e rest) :
    Reads (functionWith g part true isAnonymous isCertain) (kw "CASE" :: ls) (some e) rest := by
  intro last?
  have hname : Text.upper "CASE" = "CASE" := by decide
  have hlead : leadingFunctions.contains "CASE" = true := by decide
  simp only [functionWith, run_bind, run_get, run_ahead?, Option.bind_some, List.cons_append,
    List.head?_cons, Lexeme.content, hname, hlead, Bool.and_true, if_true, run_advance,
    leadingFunction, h _ _, hw _, run_pure, Lexeme.lastOf_cons]

/-- The word for the current date, which is a call without parentheses. -/
theorem functionWith_reads_today {part : Parser (Option Expr)} {isAnonymous isCertain : Bool}
    (hrest : rest.head?.any (·.isSymbol "(") = false) :
    Reads (functionWith g part true isAnonymous isCertain) [kw "CURRENT_DATE"]
      (some (.word "CURRENT_DATE")) rest := by
  intro last?
  have hname : Text.upper "CURRENT_DATE" = "CURRENT_DATE" := by decide
  have hlead : leadingFunctions.contains "CURRENT_DATE" = false := by decide
  have hbare : bareFunction? (kw "CURRENT_DATE") = some (.word "CURRENT_DATE") := by
    simp [bareFunction?]
  have hsecond : rest[0]?.any (Lexeme.isSymbol "(" ·) = false := by
    simpa [List.head?_eq_getElem?] using hrest
  simp only [functionWith, run_bind, run_get, run_ahead?, Option.bind_some, List.cons_append,
    List.nil_append, List.head?_cons, Lexeme.content, hname, hlead, Bool.and_false,
    Bool.false_eq_true, if_false, run_second?, List.getElem?_cons_succ, hsecond, hbare,
    Option.filter_some, if_true, run_ite, run_advance, run_made, run_pure, Lexeme.lastOf_cons,
    Lexeme.lastOf_nil]

theorem function_reads {canBeBare : Bool} (hls : ls ≠ [])
    (hbrace : ls.head?.any (·.isSymbol "\x7b") = false)
    (h : Reads (functionWith g (partCall g) canBeBare false false) ls (some e) rest) :
    Reads (function g canBeBare) ls (some e) rest := by
  intro last?
  have hnone : acceptBoth (·.isSymbol "\x7b") (·.reads "FN") (.before last? (ls ++ rest)) =
      some (false, .before last? (ls ++ rest)) :=
    run_acceptBoth_of_not last? _ (.inl (by rwa [Lexeme.head?_append hls]))
  simp [function, hnone, h _]

/-! ## Parentheses -/

theorem parenthesized_reads_group (hq : Leaves (g.query .alone) none (ls ++ .symbol ")" :: rest))
    (hi : Reads (separated g.item) ls [e] (.symbol ")" :: rest)) (he : e.bare = e)
    (hquery : ∀ q, e ≠ .query q) (hlast : ∀ before?, lastOf before? ls ≠ some (.symbol ",")) :
    Reads (parenthesized g) ls (.group e) (.symbol ")" :: rest) := by
  intro last?
  have hcomma : (lastOf last? ls).any (·.isSymbol ",") = false := by
    cases h : lastOf last? ls with
    | none => rfl
    | some l =>
      refine Bool.eq_false_iff.mpr fun hl => hlast last? ?_
      rw [h, Lexeme.isSymbol_iff.mp hl]
  simp only [parenthesized, run_bind, hq _, hi _, Option.bind_some, he, run_last?, hcomma,
    List.isEmpty_nil, Bool.not_false, Bool.and_self, if_true, run_made]

theorem parenthesized_reads_tuple {e' : Expr} {es : List Expr}
    (hq : Leaves (g.query .alone) none (ls ++ .symbol ")" :: rest))
    (hi : Reads (separated g.item) ls (e :: e' :: es) (.symbol ")" :: rest)) (he : e.bare = e)
    (hquery : ∀ q, e ≠ .query q) :
    Reads (parenthesized g) ls (.tuple (e :: e' :: es)) (.symbol ")" :: rest) := by
  intro last?
  simp only [parenthesized, run_bind, hq _, hi _, Option.bind_some, he, run_last?,
    List.isEmpty_cons, Bool.false_and, Bool.false_eq_true, if_false, run_made]

/-- Whether a query keeps its form between parentheses: it is no listed rows and has no alias. -/
def isPlainQuery : Query → Bool
  | .values _ | .aliased .. => false
  | _ => true

theorem parenthesized_reads_query {q : Query} (hq : Reads (g.query .alone) ls (some q) rest)
    (hplain : isPlainQuery q = true) :
    Reads (parenthesized g) ls (.query (.nested q)) rest := by
  intro last?
  simp only [parenthesized, run_bind, hq _, Option.bind_some]
  cases q with
  | values => cases hplain
  | aliased => cases hplain
  | _ => exact run_made ..

theorem parentheses_reads (h : Reads (parenthesized g) ls e (.symbol ")" :: rest))
    (he : e.bare = e) (hg : noGroupWords rest) (hover : rest.head?.any (·.isKeyword "OVER") = false) :
    Reads (parentheses g) (.symbol "(" :: (ls ++ [.symbol ")"])) (some e) rest := by
  intro last?
  simp only [parentheses, run_bind, List.cons_append, List.append_assoc, List.nil_append, run_symbol,
    Lexeme.isSymbol_symbol, beq_self_eq_true, if_true, Option.bind_some, run_pending, h _, run_closed,
    annotated_nil, he]
  cases e with
  | group inner =>
    have hw : Leaves (windowed g (.group inner)) (.group inner) rest :=
      windowed_leaves rfl rfl hg hover
    simp only [run_ite, run_bind, hw _, Option.bind_some, run_pure, ite_self, Lexeme.lastOf_cons,
      Lexeme.lastOf_append, Lexeme.lastOf_nil]
  | _ => simp only [run_pure, Lexeme.lastOf_cons, Lexeme.lastOf_append, Lexeme.lastOf_nil]

theorem primary_reads_parentheses
    (h : Reads (parentheses g) (.symbol "(" :: ls) (some e) rest) :
    Reads (primary g) (.symbol "(" :: ls) (some e) rest := by
  intro last?
  rw [primary_eq_parentheses rfl last?, h last?]

end Parser

end QueryBook.Sql
