import QueryBook.Proofs.Sql.Reader.Argument
import QueryBook.Sql.Parser.Source

/-!
# Reading sources

A source is the path to a table or a query between parentheses, perhaps with an alias; further
sources are joined to it by a comma or by `JOIN` with a test behind it. What else may stand behind a
source, such as hints or a sample, begins with a word that no printed statement has there.
-/

namespace QueryBook.Sql

open Lexeme (kw lastOf)

namespace Lexeme

/-- Whether the lexeme is a name that no call without parentheses begins with. -/
def namesSource (l : Lexeme) : Bool :=
  ((match l with
    | .quoted _ => true
    | _ => false) || Parser.isWordOf Keyword.isName l) && !l.beginsBareCall

end Lexeme

namespace Parser

variable {g : Grammar} {ls ms rest : List Lexeme} {e : Expr}

/-! ## Paths -/

theorem tablePart_reads {l : Lexeme} {n : Name} (hn : l.asName? = some n)
    (hl : l.namesSource = true) (hrest : rest.head?.any (·.isSymbol "(") = false) :
    Reads (tablePart g) [l] (some (.name n)) rest := by
  simp only [Lexeme.namesSource, Bool.and_eq_true, Bool.not_eq_true'] at hl
  have hsecond : (l :: rest)[1]?.any (Lexeme.isSymbol "(" ·) = false := by
    simpa [List.head?_eq_getElem?] using hrest
  have hbrace : l.isSymbol "\x7b" = false := by
    cases l <;> first | rfl | cases hn
  have hfunction : Leaves (function g false) none (l :: rest) :=
    function_leaves hbrace hl.2 (.inl hsecond)
  have hallowed : (l.beginsIdentifier || false && !l.isNoName || isWordOf Keyword.isName l) = true := by
    cases l with
    | quoted s => rfl
    | word s => rfl
    | keyword kind s => simpa [Lexeme.beginsIdentifier] using hl.1
    | _ => cases hn
  have hname : Reads (name g) [l] (some (.name n)) rest := nameWhere_reads hn hallowed
  intro last?
  simp [tablePart, hfunction last?, hname.one]

/-- One step behind the path of a table: a point and a part. -/
def pathStep (g : Grammar) (found : Expr × Option Expr × List String) :
    Parser (Option (Expr × Option Expr × List String)) := do
  unless ← symbol "." do return none
  let part? ← tablePart g
  let part := part?.getD (.word "")
  return some (Expr.field found.1 part.bare, part?, found.2.2 ++ part.comments)

theorem tablePath_eq : tablePath g = (do
    let some first ← tablePart g | return none
    let (path, last, comments) ← iterate (pathStep g) (first.bare, some first, first.comments)
    if last.isNone then failure
    let comments ← if comments.isEmpty then taken else pure comments
    return some (Query.annotated comments (.expr path))) := rfl

/-- From some lexemes on, a first part and the parts behind it are the path of a table. -/
def Leads (g : Grammar) (ls : List Lexeme) (e : Expr) (rest : List Lexeme) : Prop :=
  ∀ last?, ∃ first last c, tablePart g (.before last? (ls ++ rest)) = some (some first, c) ∧
    first.bare = first ∧
    Steps (pathStep g) (first, some first, []) c (e, some last, []) (.before (lastOf last? ls) rest)

theorem Leads.of_part (h : Reads (tablePart g) ls (some e) rest) (he : e.bare = e) :
    Leads g ls e rest :=
  fun last? => ⟨e, e, _, h last?, he, .refl ..⟩

theorem Leads.field {part : Expr} (h : Leads g ls e (.symbol "." :: (ms ++ rest)))
    (hp : Reads (tablePart g) ms (some part) rest) (hbare : part.bare = part) :
    Leads g (ls ++ .symbol "." :: ms) (.field e part) rest := by
  intro last?
  obtain ⟨first, last, c, hfirst, hbareFirst, hsteps⟩ := h last?
  refine ⟨first, part, c, by simpa using hfirst, hbareFirst, hsteps.trans ?_⟩
  rw [Lexeme.lastOf_append]
  refine .single ?_ (by simpa only [Cursor.before_rest_length] using Lexeme.length_lt _ ms rest)
  simp [pathStep, hp _, hbare, comments_of_bare hbare]

theorem tablePath_reads (h : Leads g ls e rest)
    (hrest : rest.head?.any (·.isSymbol ".") = false) :
    Reads (tablePath g) ls (some (.expr e)) rest := by
  intro last?
  obtain ⟨first, last, c, hfirst, hbare, hsteps⟩ := h last?
  have hend : Leaves (pathStep g (e, some last, [])) none rest := fun last? => by
    simp [pathStep, symbol_leaves _ hrest last?]
  simp [tablePath_eq, hfirst, hbare, comments_of_bare hbare, hsteps.iterate_eq (hend _),
    Query.annotated]

/-! ## Aliases -/

theorem aliasColumns_leaves (h : ls.head?.any (·.isSymbol "(") = false) :
    Leaves (aliasColumns g) [] ls := by
  intro last?
  simp [aliasColumns, symbol_leaves _ h last?]

theorem tableAliasWhere_leaves {isAllowed : String → Bool}
    (hlimit : Leaves (beginsLimit g) false ls) (has : ls.head?.any (·.isKeyword "AS") = false)
    (hname : Leaves (nameWhere g false isAllowed) none ls) (htext : ∀ s, ls.head? ≠ some (.text s))
    (hparen : ls.head?.any (·.isSymbol "(") = false) :
    Leaves (tableAliasWhere g isAllowed) none ls := by
  intro last?
  simp [tableAliasWhere, hlimit last?, keyword_leaves _ has last?, hname last?,
    textName_leaves htext last?, aliasColumns_leaves hparen last?]

theorem tableAliasWhere_reads {isAllowed : String → Bool} {l : Lexeme} {n : Name}
    (hn : l.asName? = some n) (hl : l.isNoName = false)
    (hrest : rest.head?.any (·.isSymbol "(") = false) :
    Reads (tableAliasWhere g isAllowed) [kw "AS", l] (some (.name n)) rest := by
  intro last?
  have hlimit : Leaves (beginsLimit g) false (kw "AS" :: l :: rest) := beginsLimit_leaves rfl
  have hname : Reads (nameWhere g true isAllowed) [l] (some (.name n)) rest :=
    nameWhere_reads hn (by simp [hl])
  simp [tableAliasWhere, hlimit last?, hname.one, aliasColumns_leaves hrest _, withColumns,
    bare_name, comments_name, annotated_nil]

/-- Without `AS`, nothing that follows a source is its alias. -/
theorem tableAlias_leaves (h : Follows .table rest) : Leaves (tableAlias g) none rest := by
  have hbegins : Leaves (beginsLimit g) (rest.head?.any (·.isKeyword "LIMIT")) rest :=
    beginsLimit_leaves (h.head_any (by decide))
  by_cases hlimit : rest.head?.any (·.isKeyword "LIMIT") = true
  · intro last?
    simp only [tableAlias, tableAliasWhere, hbegins last?, hlimit, run_bind, run_pure, run_ite,
      Option.bind_some, if_true]
  rw [Bool.not_eq_true] at hlimit
  rw [hlimit] at hbegins
  refine tableAliasWhere_leaves hbegins (h.head_any (by decide)) (nameWhere_leaves ?_)
    (fun s heq => ?_) (h.head_any (by decide))
  · have hall : rest.head?.any (fun l => !l.isKeyword "LIMIT" && (l.beginsIdentifier ||
        false && !l.isNoName || isWordOf (fun kind =>
          Keyword.isName kind && !Keyword.noTableAlias.contains kind) l)) = false :=
      h.head_any (by decide)
    cases hhead : rest.head? with
    | none => rfl
    | some l =>
      rw [hhead, Option.any_some] at hlimit hall
      rw [hlimit] at hall
      exact hall
  · have : rest.head?.any (fun l => l == .text l.content) = false := h.head_any (by decide)
    simp [heq, Lexeme.content] at this

/-- The alias of a source as it is written, and the source with it. -/
inductive AliasOf : List Lexeme → Query → Query → Prop
  | none (q : Query) : AliasOf [] q q
  | some {l : Lexeme} {n : Name} (q : Query) (hn : l.asName? = some n) (hl : l.isNoName = false) :
    AliasOf [kw "AS", l] q (.aliased q (.name n))

/-- A query that has no comments. -/
def isBareQuery : Query → Bool
  | .commented .. => false
  | _ => true

theorem named_reads {q q' : Query} (h : AliasOf ls q q') (hq : isBareQuery q = true)
    (hf : Follows .table rest) : Reads (named g q) ls q' rest := by
  intro last?
  cases h with
  | none => simp [named, tableAlias_leaves hf last?]
  | @some l n _ hn hl =>
    have halias : tableAlias g (.before last? (kw "AS" :: l :: rest)) =
        some (some (.name n), .before (some l) rest) :=
      tableAliasWhere_reads hn hl (hf.head_any (by decide)) last?
    cases q <;> first | cases hq; done | simp [named, halias, inside]

/-! ## What does not follow a source -/

theorem sampled_leaves (h : Follows .table rest) {q : Query} : Leaves (sampled g q) q rest := by
  intro last?
  simp only [sampled, sample, h.keyword "TABLESAMPLE" (by decide) last?, run_bind, run_pure,
    run_ite, Option.bind_some, List.append_assoc, List.cons_append, List.nil_append, if_false,
    Bool.false_eq_true]

theorem tableHints_leaves (h : Follows .table rest) : Leaves (tableHints g) [] rest := by
  intro last?
  have hnone : Leaves (acceptBoth (·.isKeyword "WITH") (·.isSymbol "(")) false rest :=
    h.acceptBoth (by decide)
  simp [tableHints, hnone last?]

theorem ordinality_leaves (h : Follows .table rest) : Leaves ordinality false rest :=
  h.acceptBoth (by decide)

/-- A table, perhaps with an alias. -/
theorem plainTable_reads {q : Query} (h : Leads g ls e (ms ++ rest)) (ha : AliasOf ms (.expr e) q)
    (hf : Follows .table rest) : Reads (plainTable g) (ls ++ ms) (some q) rest := by
  have hhead (mark : String) (hm : mark = "." ∨ mark = "*") :
      (ms ++ rest).head?.any (·.isSymbol mark) = false := by
    cases ha with
    | none => rcases hm with rfl | rfl <;> exact hf.head_any (by decide)
    | some => rfl
  have hpath := tablePath_reads h (hhead "." (.inl rfl))
  intro last?
  simp [plainTable, hpath _, symbol_leaves _ (hhead "*" (.inr rfl)) _, named_reads ha rfl hf _,
    tableHints_leaves hf _, withPhrase, sampled_leaves hf _, ordinality_leaves hf _]

/-! ## Sources of other kinds -/

theorem lateral_leaves (h : ls.head?.any (·.isKeyword "LATERAL") = false) :
    Leaves (lateral g) none ls := by
  intro last?
  simp [lateral, keyword_leaves _ h last?]

theorem reads_pair_leaves {first second : String} (h : ls[1]?.any (Lexeme.reads second ·) = false) :
    Leaves (reads [first, second]) false ls := by
  intro last?
  rcases ls with _ | ⟨l, ls⟩
  · simp [Parser.reads]
  · have hsecond : accept (·.reads second) (.before (some l) ls) =
        some (false, .before (some l) ls) :=
      run_accept_of_not _ _ (by simpa [List.head?_eq_getElem?] using h)
    have hlt : ls.length < (l :: ls).length := by simp
    by_cases hl : l.reads first = true
    · simp [Parser.reads, hl, hsecond, run_retreat_of_lt _ _ hlt]
    · simp [Parser.reads, hl]

theorem values_leaves (htame : ∀ l ∈ ls, l.isTame = true) : Leaves (values g) none ls := by
  have hwrapped : ls[1]?.any (Lexeme.isKeyword "VALUES" ·) = false := by
    rw [Option.any_eq_false]
    exact fun l hl => by simp [(Lexeme.not_values_of_isTame (htame l (List.mem_of_getElem? hl))).1]
  have hword : ls.head?.any (·.isKeyword "VALUES") = false := by
    rw [Option.any_eq_false]
    exact fun l hl => by simp [(Lexeme.not_values_of_isTame (htame l (List.mem_of_mem_head? hl))).1]
  have hformat : ls[1]?.any (Lexeme.reads "VALUES" ·) = false := by
    rw [Option.any_eq_false]
    exact fun l hl => by simp [(Lexeme.not_values_of_isTame (htame l (List.mem_of_getElem? hl))).2]
  intro last?
  simp only [values, run_acceptBoth_of_not last? ls (.inr hwrapped), keyword_leaves _ hword last?,
    reads_pair_leaves hformat last?, run_bind, run_pure, run_ite, run_orM, Option.bind_some,
    if_false, Bool.false_eq_true]

/-- A table or a function stands where no query is. -/
theorem table_reads_plain {q : Query} (h : Reads (plainTable g) ls (some q) rest)
    (htame : ∀ l ∈ ls ++ rest, l.isTame = true)
    (hlateral : (ls ++ rest).head?.any (·.isKeyword "LATERAL") = false)
    (hunnest : (ls ++ rest)[1]?.any (Lexeme.isSymbol "(" ·) = false)
    (hq : Leaves (g.query .source) none (ls ++ rest)) : Reads (table g) ls (some q) rest := by
  intro last?
  have hword : Leaves (acceptBoth (·.isKeyword "UNNEST") (·.isSymbol "(")) false (ls ++ rest) :=
    fun last? => run_acceptBoth_of_not last? _ (.inr hunnest)
  have hnone : Leaves (unnest g) none (ls ++ rest) := fun last? => by
    simp only [unnest, hword last?, run_bind, run_pure, run_ite, run_discard, Option.bind_some,
      if_false, Bool.false_eq_true]
  simp only [table, lateral_leaves hlateral last?, hnone last?, values_leaves htame last?, hq last?,
    h last?, run_bind, Option.bind_some]

/-- A query in the place of a table. -/
theorem table_reads_query {q : Query} (h : Reads (g.query .source) ls (some q) rest)
    (htame : ∀ l ∈ ls ++ rest, l.isTame = true)
    (hhead : (ls ++ rest).head?.any (fun l => l.isKeyword "LATERAL" || l.isKeyword "UNNEST") = false) :
    Reads (table g) ls (some q) rest := by
  intro last?
  have hlateral : (ls ++ rest).head?.any (·.isKeyword "LATERAL") = false :=
    any_eq_false hhead fun l hl => by simp [hl]
  have hunnest : (ls ++ rest).head?.any (·.isKeyword "UNNEST") = false :=
    any_eq_false hhead fun l hl => by simp [hl]
  have hword : Leaves (acceptBoth (·.isKeyword "UNNEST") (·.isSymbol "(")) false (ls ++ rest) :=
    fun last? => run_acceptBoth_of_not last? _ (.inl hunnest)
  have hnone : Leaves (unnest g) none (ls ++ rest) := fun last? => by
    simp only [unnest, hword last?, run_bind, run_pure, run_ite, run_discard, Option.bind_some,
      if_false, Bool.false_eq_true]
  simp only [table, lateral_leaves hlateral last?, hnone last?, values_leaves htame last?, h last?,
    run_bind, run_pure, Option.bind_some]

/-! ## Joins -/

/-- The words that a join is printed with before `JOIN`. -/
def joinPhrases : List (List String) :=
  [[], ["INNER"], ["CROSS"], ["LEFT"], ["RIGHT"], ["FULL"], ["LEFT", "OUTER"], ["RIGHT", "OUTER"],
   ["FULL", "OUTER"], ["LEFT", "SEMI"], ["LEFT", "ANTI"], ["NATURAL"], ["NATURAL", "INNER"],
   ["NATURAL", "LEFT"], ["NATURAL", "RIGHT"], ["NATURAL", "FULL"], ["NATURAL", "LEFT", "OUTER"],
   ["NATURAL", "RIGHT", "OUTER"], ["NATURAL", "FULL", "OUTER"]]

/-- One of the words before `JOIN`, if it is there, with its comments. -/
def joinWord (kinds : List String) : Parser (List String × List String) := do
  match ← keywordOf kinds with
  | some kind => return ([kind], ← pending)
  | none => return ([], [])

theorem joinWords_eq : joinWords = (do
    let method ← joinWord ["ASOF", "NATURAL"]
    let side ← joinWord ["FULL", "LEFT", "RIGHT"]
    let kind ← joinWord ["ANTI", "CROSS", "INNER", "OUTER", "SEMI", "STRAIGHT_JOIN"]
    return (method.1 ++ side.1 ++ kind.1, method.2 ++ side.2 ++ kind.2)) := rfl

theorem joinWord_leaves {kinds : List String}
    (h : ∀ kind ∈ kinds, rest.head?.any (·.isKeyword kind) = false) :
    Leaves (joinWord kinds) ([], []) rest := fun last? => by
  simp [joinWord, keywordOf_leaves h last?]

/-- The words that can stand before `JOIN`. -/
def joinKinds : List String :=
  ["ASOF", "NATURAL", "FULL", "LEFT", "RIGHT", "ANTI", "CROSS", "INNER", "OUTER", "SEMI",
    "STRAIGHT_JOIN"]

theorem joinWords_leaves (h : ∀ kind ∈ joinKinds, rest.head?.any (·.isKeyword kind) = false) :
    Leaves joinWords ([], []) rest := by
  have hword (kinds : List String) (hk : kinds ⊆ joinKinds) : Leaves (joinWord kinds) ([], []) rest :=
    joinWord_leaves fun kind hkind => h kind (hk hkind)
  intro last?
  simp only [joinWords_eq, run_bind, Option.bind_some, run_pure, List.append_nil,
    hword ["ASOF", "NATURAL"] (by decide) last?, hword ["FULL", "LEFT", "RIGHT"] (by decide) last?,
    hword ["ANTI", "CROSS", "INNER", "OUTER", "SEMI", "STRAIGHT_JOIN"] (by decide) last?]

/-- A word that may be missing, if what follows it is no word of its kinds. -/
theorem joinWord_reads {kinds : List String} {word? : Option String} (h : ∀ w ∈ word?, w ∈ kinds)
    (hnot : ∀ kind ∈ kinds, rest.head?.any (·.isKeyword kind) = false) :
    Reads (joinWord kinds) (word?.toList.map kw) (word?.toList, []) rest := by
  cases word? with
  | none => exact joinWord_leaves hnot
  | some w =>
    intro last?
    simp [joinWord, (keywordOf_reads (h w rfl) w rest).one]

/-- The words before `JOIN` by their kinds. -/
theorem joinPhrases_parts : ∀ ws ∈ joinPhrases, ∃ method? ∈ [none, some "NATURAL"],
    ∃ side? ∈ [none, some "LEFT", some "RIGHT", some "FULL"],
    ∃ kind? ∈ [none, some "INNER", some "CROSS", some "OUTER", some "SEMI", some "ANTI"],
      ws = method?.toList ++ side?.toList ++ kind?.toList := by
  decide

theorem joinWords_reads {ws : List String} (h : ws ∈ joinPhrases) :
    Reads joinWords (ws.map kw) (ws, []) (kw "JOIN" :: rest) := by
  obtain ⟨method?, hmethod, side?, hside, kind?, hkind, rfl⟩ := joinPhrases_parts ws h
  clear h
  have hkindWord : Reads (joinWord ["ANTI", "CROSS", "INNER", "OUTER", "SEMI", "STRAIGHT_JOIN"])
      (kind?.toList.map kw) (kind?.toList, []) (kw "JOIN" :: rest) :=
    joinWord_reads (by revert kind?; decide) (by simp)
  have hsideWord : Reads (joinWord ["FULL", "LEFT", "RIGHT"]) (side?.toList.map kw)
      (side?.toList, []) (kind?.toList.map kw ++ kw "JOIN" :: rest) :=
    joinWord_reads (by revert side?; decide) (by revert kind?; simp)
  have hmethodWord : Reads (joinWord ["ASOF", "NATURAL"]) (method?.toList.map kw)
      (method?.toList, []) (side?.toList.map kw ++ (kind?.toList.map kw ++ kw "JOIN" :: rest)) :=
    joinWord_reads (by revert method?; decide) (by revert side? kind?; simp)
  intro last?
  simp only [joinWords_eq, run_bind, Option.bind_some, run_pure, List.append_nil, List.map_append,
    List.append_assoc, hmethodWord _, hsideWord _, hkindWord _, Lexeme.lastOf_append]

theorem joinTest_reads_on (h : Reads g.disjunction ls (some e) rest) :
    Reads (joinTest g) (kw "ON" :: ls) (some (some e, [])) rest := by
  intro last?
  simp [joinTest, h _]

theorem joinTest_reads_using {es : List Expr} (hes : ∀ e ∈ es, ∃ n, e = .name n)
    (h : Reads (separated g.column) ls es (.symbol ")" :: rest)) :
    Reads (joinTest g) (kw "USING" :: .symbol "(" :: (ls ++ [.symbol ")"])) (some (none, es))
      rest := by
  intro last?
  simp [joinTest, sharedColumns, h _, expectSymbol]
  refine (List.map_congr_left fun e he => ?_).trans (List.map_id es)
  obtain ⟨n, rfl⟩ := hes e he
  rfl

theorem joinTest_leaves (h : rest.head?.any (fun l => l.isKeyword "ON" || l.isKeyword "USING") = false) :
    Leaves (joinTest g) none rest := by
  intro last?
  have hon := keyword_leaves "ON" (any_eq_false h fun l hl => by simp [hl])
  have husing := keyword_leaves "USING" (any_eq_false h fun l hl => by simp [hl])
  simp [joinTest, hon last?, husing last?]

/-- A joined source with a test behind it. -/
theorem join_reads_tested {p : Parser (List Join)} {ws : List String} {q : Query}
    {test : Option Expr × List Expr} (hws : ws ∈ joinPhrases)
    (hsource : Reads (table g) ls (some q) (ms ++ rest))
    (htest : Reads (joinTest g) ms (some test) rest) :
    Reads (join g p) (ws.map kw ++ kw "JOIN" :: (ls ++ ms)) (some ⟨[], ws, q, test.1, test.2⟩)
      rest := by
  have hcomma : (ws.map kw ++ kw "JOIN" :: (ls ++ (ms ++ rest))).head?.any (·.isSymbol ",") =
      false := by
    cases ws <;> rfl
  intro last?
  simp only [join, symbol_leaves _ hcomma _, joinWords_reads hws _, required, hsource _, htest _,
    run_bind, run_pure, run_ite, run_get, run_pending, run_taken, run_keyword, Option.bind_some,
    List.append_assoc, List.cons_append, List.append_nil, List.isEmpty_nil, if_true, if_false,
    Bool.false_eq_true, Bool.true_or, beq_self_eq_true, Lexeme.isKeyword_keyword,
    Lexeme.lastOf_append, Lexeme.lastOf_cons]

/-- A joined source that no test follows. -/
theorem join_reads_untested {p : Parser (List Join)} {ws : List String} {q : Query}
    (hws : ws ∈ joinPhrases) (hnested : allowsNested ws q = false)
    (hsource : Reads (table g) ls (some q) rest)
    (hrest : rest.head?.any (fun l => l.isKeyword "ON" || l.isKeyword "USING") = false) :
    Reads (join g p) (ws.map kw ++ kw "JOIN" :: ls) (some ⟨[], ws, q, none, []⟩) rest := by
  have hcomma : (ws.map kw ++ kw "JOIN" :: (ls ++ rest)).head?.any (·.isSymbol ",") = false := by
    cases ws <;> rfl
  intro last?
  simp only [join, symbol_leaves _ hcomma _, joinWords_reads hws _, required, hsource _,
    joinTest_leaves hrest _, hnested, run_bind, run_pure, run_ite, run_get, run_pending, run_taken,
    run_keyword, Option.bind_some, List.append_assoc, List.cons_append, List.append_nil,
    List.isEmpty_nil, if_true, if_false, Bool.false_eq_true, Bool.true_or, beq_self_eq_true,
    Lexeme.isKeyword_keyword, Lexeme.lastOf_append, Lexeme.lastOf_cons]

/-- A further source behind a comma. -/
theorem join_reads_comma {p : Parser (List Join)} {q : Query}
    (hsource : Reads (table g) ls (some q) rest) :
    Reads (join g p) (.symbol "," :: ls) (some ⟨[], [], q, none, []⟩) rest := by
  intro last?
  simp only [join, commaJoin, attempt, hsource _, run_bind, run_pure, run_ite, run_get, run_taken,
    run_symbol, Option.bind_some, List.cons_append, if_true, beq_self_eq_true,
    Lexeme.isSymbol_symbol, Lexeme.lastOf_cons]

theorem join_leaves {p : Parser (List Join)} (h : rest.head?.any (fun l => l.isSymbol "," ||
    ["ASOF", "NATURAL", "FULL", "LEFT", "RIGHT", "ANTI", "CROSS", "INNER", "OUTER", "SEMI",
      "STRAIGHT_JOIN", "JOIN"].any l.isKeyword) = false) : Leaves (join g p) none rest := by
  have hwords : Leaves joinWords ([], []) rest :=
    joinWords_leaves fun kind hkind => any_eq_false h fun l hl => by
      rw [Bool.or_eq_true]
      exact .inr (List.any_eq_true.mpr ⟨kind, List.mem_append_left ["JOIN"] hkind, hl⟩)
  have hcomma := symbol_leaves "," (any_eq_false h fun l hl => by simp [hl])
  have hjoin := keyword_leaves "JOIN" (any_eq_false h fun l hl => by simp [hl])
  have hboth (kind : String) (hk : kind = "OUTER" ∨ kind = "CROSS") :
      Leaves (acceptBoth (·.isKeyword kind) (·.isKeyword "APPLY")) false rest := fun last? =>
    run_acceptBoth_of_not _ _ (.inl (any_eq_false h fun l hl => by
      rcases hk with rfl | rfl <;> simp [hl]))
  intro last?
  simp only [join, hcomma last?, hwords last?, hjoin last?, hboth "OUTER" (.inl rfl) last?,
    hboth "CROSS" (.inr rfl) last?, run_bind, run_pure, run_ite, run_get, run_pending,
    run_retreat_self, Option.bind_some, List.getLast?_nil, Option.none_beq_some, List.append_nil,
    if_false, Bool.false_eq_true, Bool.or_false]

end Parser

end QueryBook.Sql
