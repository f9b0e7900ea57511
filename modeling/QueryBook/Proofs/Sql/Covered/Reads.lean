import QueryBook.Proofs.Sql.Reader.Barrier
import QueryBook.Proofs.Sql.Covered.Shaped

/-!
# Reading covered trees

The readers find a covered tree in its own lexemes, whatever follows it that can follow a tree of its
kind (`Covered.reads`). The induction is on how the tree is covered; the grammar has to be as deep as
the tree, for which four levels for each lexeme suffice, since a reader hands the same lexemes on to
the next level at most once.
-/

namespace QueryBook.Sql

open QueryBook.Sql.Parser
open Lexeme (kw)

variable {d : Dialect} {tokens : String → Option (List Token)} {e : Expr} {q : Query}
  {rest : List Lexeme}

/-! ## What follows -/

/-- A lexeme that follows, other than a sign that can be doubled. -/
theorem Follows.mark {level : Level} {l : Lexeme} {ls : List Lexeme} (hl : l ∈ level.followers)
    (hsign : l ≠ .symbol "<" ∧ l ≠ .symbol ">") (ht : l.isTame = true)
    (htame : ∀ m ∈ ls, m.isTame = true) : Follows level (l :: ls) :=
  .cons hl (fun h => absurd h (not_or.mpr hsign)) ht htame

/-- What follows a phrase of a level follows its operands. -/
theorem Follows.toBelow {level : Level} (h : Follows level rest) (hl : level ∉ Level.ends) :
    Follows level.below rest := by
  refine h.below ?_ ?_ <;> cases level <;> first | decide | simp [Level.ends] at hl

/-! ## Trees and their readers -/

namespace Node

/-- The lexemes that a tree is written with; a select is read behind its first word. -/
def lexemes (d : Dialect) : Node → List Lexeme
  | path e | source e | expr _ e | argument e | item e | key e => e.lexemes d
  | table q | chain q | query q => q.lexemes d
  | join j => Layout.lexemes (joinsParts d [j])
  | select o => Layout.lexemes (o.bodyParts d)
  | named t => Layout.lexemes (t.parts d)

/-- Whether the reader of the tree hands its lexemes on to the next level of the grammar. -/
def rank : Node → Nat
  | argument _ | key _ | select _ => 1
  | _ => 0

/-- The reader for a tree finds it in its lexemes, in front of what can follow. -/
def Reads (d : Dialect) (tokens : String → Option (List Token)) (g : Grammar) : Node → Prop
  | path e => ∀ rest, rest.head?.any (·.isSymbol "(") = false → noBrackets rest →
      Owns g (e.lexemes d) e rest
  | source e => ∀ rest, rest.head?.any (·.isSymbol "(") = false → Leads g (e.lexemes d) e rest
  | expr level e => ∀ rest, Follows level.below rest → Reach g level (e.lexemes d) e rest
  | argument e => ∀ canAlias rest, Follows .argument rest →
      Parser.Reads (Parser.argument g canAlias) (e.lexemes d) (some e) rest
  | item e => ∀ rest, Follows .item rest → Parser.Reads (Parser.item g) (e.lexemes d) (some e) rest
  | key e => ∀ rest, Follows .key rest → Parser.Reads (Parser.sortKey g) (e.lexemes d) (some e) rest
  | table q => ∀ rest, Follows .table rest →
      Parser.Reads (Parser.table g) (q.lexemes d) (some q) rest
  | join j => ∀ p rest, Follows .join rest →
      Parser.Reads (Parser.join g p) (Layout.lexemes (joinsParts d [j])) (some j) rest
  | select o => ∀ rest, Follows .clauses rest →
      (rest.head? = some (kw "EXCEPT") → o.from?.isSome = true) →
        Parser.Reads (Parser.select g tokens none) (Layout.lexemes (o.bodyParts d)) o.select rest
  | chain q => ∀ ls rest, q.lexemes d = kw "SELECT" :: ls → Follows .clauses rest →
      (rest.head? = some (kw "EXCEPT") → q.endsWithSource = true) →
        Reaches (selectQuery g tokens) (setStep g) ls q rest
  | query q => ∀ place rest, place ≠ .operand → Closes rest →
      Parser.Reads (Parser.query g tokens place) (q.lexemes d) (some q) rest
  | named t => ∀ rest, (∀ l ∈ rest, l.isTame = true) →
      Parser.Reads (Parser.commonTable g) (Layout.lexemes (t.parts d)) (some t) rest

end Node

/-! ## Operands -/

section

variable {g : Grammar} {n : Name} {l : Lexeme}

theorem Lexeme.isName_of_namesSource (h : l.namesSource = true) :
    (l.beginsIdentifier || isWordOf Keyword.isName l) = true ∧ l.beginsBareCall = false := by
  simp only [namesSource, Bool.and_eq_true, Bool.not_eq_true'] at h
  refine ⟨?_, h.2⟩
  cases l <;> simp_all [beginsIdentifier]

/-- A name is read wherever no parenthesis or bracket follows. -/
theorem Parser.Owns.name (hn : n.Writes l) (hl : l.namesSource = true)
    (hp : l.beginsPrimary = false) (hparen : rest.head?.any (·.isSymbol "(") = false)
    (hb : noBrackets rest) : Owns g [l] (.name n) rest := by
  obtain ⟨hname, hbare⟩ := Lexeme.isName_of_namesSource hl
  exact .of_reference (reference_reads_name hn.asName? hname hp hbare hparen) hb

theorem Node.Reads.path_name (hn : n.Writes l) (hl : l.namesColumn = true) :
    (Node.path (.name n)).Reads d tokens g := by
  intro rest hparen hb
  simp only [Lexeme.namesColumn, Bool.and_eq_true, Bool.not_eq_true'] at hl
  rw [Expr.lexemes_name hn]
  exact .name hn hl.1.1.1 hl.1.1.2 hparen hb

theorem Node.Reads.path_field (h : (Node.path e).Reads d tokens g) (he : e.bare = e)
    (hn : n.Writes l) (hl : l.namesMember = true) :
    (Node.path (.field e (.name n))).Reads d tokens g := by
  intro rest hparen hb
  simp only [Lexeme.namesMember, Bool.and_eq_true, Bool.not_eq_true'] at hl
  rw [Expr.lexemes_field, Expr.lexemes_name hn]
  exact (h (.symbol "." :: ([l] ++ rest)) rfl rfl).field
    (member_reads_name hn.asName? hl.1.1 hl.1.2 hl.2 hparen) hb he rfl

theorem Node.Reads.source_name (hn : n.Writes l) (hl : l.namesSource = true) :
    (Node.source (.name n)).Reads d tokens g := by
  intro rest hrest
  rw [Expr.lexemes_name hn]
  exact .of_part (tablePart_reads hn.asName? hl hrest) rfl

theorem Node.Reads.source_field (h : (Node.source e).Reads d tokens g) (hn : n.Writes l)
    (hl : l.namesSource = true) : (Node.source (.field e (.name n))).Reads d tokens g := by
  intro rest hrest
  rw [Expr.lexemes_field, Expr.lexemes_name hn]
  exact (h (.symbol "." :: ([l] ++ rest)) rfl).field (tablePart_reads hn.asName? hl hrest) rfl

/-- What follows an operand is no parenthesis. -/
theorem Follows.noParen (h : Follows .operand rest) : rest.head?.any (·.isSymbol "(") = false :=
  h.head_any (by decide)

theorem Lexeme.noSign_of_namesSource (h : l.namesSource = true) : beginsSign l = false := by
  cases l with
  | keyword kind s =>
    have hnot : kind ≠ "NOT" := by
      rintro rfl
      have hname : Keyword.isName "NOT" = false := by decide
      simp [namesSource, isWordOf, hname] at h
    simp [beginsSign, isSymbol, hnot]
  | symbol s => simp [namesSource, isWordOf] at h
  | _ => rfl

/-- A path, a call or a literal as an operand. -/
theorem Node.Reads.of_owns (hne : e.lexemes d ≠ [])
    (hhead : (e.lexemes d).head?.any (fun l => l.beginsType || beginsSign l) = false)
    (h : ∀ rest, Follows .operand rest → Owns g (e.lexemes d) e rest) :
    (Node.expr .operand e).Reads d tokens g :=
  fun rest hf => .of_reads (unary_reads_column (h rest hf) hne hhead hf)

theorem Node.Reads.of_reference
    (hhead : (e.lexemes d).head?.any (fun l => l.beginsType || beginsSign l) = false)
    (hne : e.lexemes d ≠ [])
    (h : ∀ rest, Follows .operand rest → Parser.Reads (reference g) (e.lexemes d) (some e) rest) :
    (Node.expr .operand e).Reads d tokens g :=
  .of_owns hne hhead fun rest hf => .of_reference (h rest hf) (noBrackets_of_follows hf)

/-- A column begins with a name, which is no type or sign. -/
theorem Node.Shape.path_head (hs : (Node.path e).Shape d) :
    (e.lexemes d).head?.any (fun l => l.beginsType || beginsSign l) = false := by
  have hcolumn := hs.2.2
  cases hhead : (e.lexemes d).head? with
  | none => rfl
  | some l =>
    rw [hhead] at hcolumn
    simp only [Option.any_some, Lexeme.namesColumn, Bool.and_eq_true, Bool.not_eq_true'] at hcolumn
    simp [hcolumn.1.2, Lexeme.noSign_of_namesSource hcolumn.1.1.1]

theorem Node.Reads.column (h : (Node.path e).Reads d tokens g) (hs : (Node.path e).Shape d) :
    (Node.expr .operand e).Reads d tokens g :=
  .of_owns hs.1.lexemes_ne_nil hs.path_head fun rest hf =>
    h rest hf.noParen (noBrackets_of_follows hf)

/-- The name of a type is a column where no type can stand. -/
theorem Node.Reads.typeName {level : Level} (hn : n.Writes l) (hl : l.namesType = true)
    (hlevel : level = .equality ∨ level = .term ∧ l.isNestedType = false) :
    (Node.expr level (.name n)).Reads d tokens g := by
  intro rest hf
  rw [Expr.lexemes_name hn]
  simp only [Lexeme.namesType, Bool.and_eq_true, Bool.not_eq_true'] at hl
  obtain ⟨⟨⟨hsource, hprimary⟩, htype⟩, hinterval⟩ := hl
  cases l with
  | keyword kind s =>
    have hfactor : Follows .factor rest := by
      rcases hlevel with rfl | ⟨rfl, -⟩
      · exact hf.below (List.subset_def.mpr (by decide)) (by decide)
      · exact hf
    have hangle : kind ∈ Keyword.nestedTypes → rest.head?.any (·.isSymbol "<") = false := by
      rcases hlevel with rfl | ⟨rfl, hnested⟩
      · exact fun _ => hf.head_any (by decide)
      · exact fun hmem => absurd hmem (by simpa [Lexeme.isNestedType] using hnested)
    have hread : Parser.Reads (unary g) [.keyword kind s] (some (.name n)) rest :=
      unary_reads_typeName (.name hn hsource hprimary hfactor.operand.noParen
        (noBrackets_of_follows hfactor.operand)) htype (by simpa using hinterval) hfactor hangle
    refine .of_operand hread hf ?_
    rcases hlevel with rfl | ⟨rfl, -⟩ <;> decide
  | _ => cases htype

theorem Node.Reads.bound {s : String} : (Node.expr .operand (.name (.bound s))).Reads d tokens g := by
  have hlexemes : (Expr.name (.bound s)).lexemes d = [.symbol ":", .ofWord s] := by
    rw [Expr.lexemes, Expr.parts, Name.parts]
    rfl
  refine .of_reference (by rw [hlexemes]; rfl) (by simp [hlexemes]) fun rest hf => ?_
  rw [hlexemes]
  refine reference_reads_placeholder (identifier_reads_bound (Lexeme.ofWord_cases s)) (.inl rfl) ?_
  rcases Lexeme.ofWord_cases s with h | ⟨kind, h⟩ <;> simp [h, Lexeme.isSymbol]

theorem Node.Reads.anonymous : (Node.expr .operand (.name .anonymous)).Reads d tokens g := by
  have hlexemes : (Expr.name .anonymous).lexemes d = [.symbol "?"] := by
    rw [Expr.lexemes, Expr.parts, Name.parts]
    rfl
  refine .of_reference (by rw [hlexemes]; rfl) (by simp [hlexemes]) fun rest hf => ?_
  rw [hlexemes]
  exact reference_reads_placeholder identifier_reads_anonymous (.inr rfl) hf.noParen

theorem Node.Reads.number (s : String) : (Node.expr .operand (.number s)).Reads d tokens g := by
  refine .of_reference (by rw [Expr.lexemes_number]; rfl) (by simp [Expr.lexemes_number])
    fun rest _ => ?_
  rw [Expr.lexemes_number]
  exact reference_of_primary (primary_reads_number s)

/-- No string follows an operand. -/
theorem Follows.noText (h : Follows .operand rest) (s : String) : rest.head? ≠ some (.text s) :=
  fun heq => Level.text_not_mem_followers s (h.head _ heq)

theorem Node.Reads.text (s : String) : (Node.expr .operand (.text s)).Reads d tokens g := by
  refine .of_reference (by rw [Expr.lexemes_text]; rfl) (by simp [Expr.lexemes_text])
    fun rest hf => ?_
  rw [Expr.lexemes_text]
  exact reference_of_primary (primary_reads_text hf.noText)

theorem Node.Reads.null : (Node.expr .term (.constant .null)).Reads d tokens g := by
  intro rest hf
  rw [Expr.lexemes_constant d (.inl rfl)]
  have howns : Owns g [kw "NULL"] (.constant .null) rest :=
    .of_reference (reference_of_primary (primary_reads_constant .null))
      (noBrackets_of_follows hf.operand)
  exact .of_operand (unary_reads_typeName howns (by decide) (by decide) hf
    fun h => absurd h (by decide)) hf (by decide)

theorem Node.Reads.truth {c : Constant} (hc : c ≠ .null) (hd : d.bitConstants = false) :
    (Node.expr .operand (.constant c)).Reads d tokens g := by
  have hlexemes := Expr.lexemes_constant d (c := c) (.inr hd)
  have hhead : (kw (constantWord c)).beginsType = false ∧ beginsSign (kw (constantWord c)) = false := by
    cases c <;> first | exact absurd rfl hc | decide
  refine .of_reference (by rw [hlexemes]; simp [hhead]) (by simp [hlexemes]) fun rest _ => ?_
  rw [hlexemes]
  exact reference_of_primary (primary_reads_constant c)

theorem Node.Reads.today : (Node.expr .operand (.word "CURRENT_DATE")).Reads d tokens g := by
  have hlexemes : (Expr.word "CURRENT_DATE").lexemes d = [kw "CURRENT_DATE"] := by
    rw [Expr.lexemes_word, Lexeme.ofWord_grammar _ (by decide)]
  refine .of_reference (by rw [hlexemes]; decide) (by simp [hlexemes]) fun rest hf => ?_
  rw [hlexemes]
  have hnot : (kw "CURRENT_DATE").beginsPrimary = false := by decide
  have hprimary : Leaves (primary g) none ([kw "CURRENT_DATE"] ++ rest) := primary_leaves hnot
  exact reference_of_function hprimary
    (function_reads (List.cons_ne_nil _ _) rfl (functionWith_reads_today hf.noParen))

end

/-! ## Expressions in lists -/

theorem Follows.condition {level : Level} (h : Follows level rest) (hl : level.above = []) :
    Follows .disjunction rest :=
  h.mono fun l hmem => by simpa [Level.followers, Level.above] using
    Level.followers_subset_condition hl hmem

section

variable {g : Grammar}

/-- The reader of a level finds an expression of the level. -/
theorem Node.Reads.reader {level : Level} (h : (Node.expr level e).Reads d tokens g)
    (hl : level ∉ Level.ends) (hf : Follows level rest) :
    Parser.Reads (Parser.reader g level) (e.lexemes d) (some e) rest :=
  (h rest (hf.toBelow hl)).reads hf

theorem Node.Reads.condition (h : (Node.expr .disjunction e).Reads d tokens g)
    (hf : Follows .disjunction rest) :
    Parser.Reads (disjunction g) (e.lexemes d) (some e) rest :=
  h.reader (by decide) hf

theorem Node.Reads.item (h : (Node.expr .disjunction e).Reads d tokens g) :
    (Node.item e).Reads d tokens g :=
  fun _ hf => item_reads (h.condition (hf.condition rfl)) hf

/-- Expressions between commas. -/
theorem separated_exprs {level : Level} {element : Parser (Option Expr)} {es : List Expr}
    (hcomma : .symbol "," ∈ level.followers) (hne : es ≠ []) (hs : ∀ x ∈ es, x.Shape d)
    (h : ∀ x ∈ es, ∀ rest, Follows level rest → Parser.Reads element (x.lexemes d) (some x) rest)
    (hf : Follows level rest) (hend : rest.head?.any (·.isSymbol ",") = false) :
    Parser.Reads (separated element) (Lexeme.commas (es.map (Expr.lexemes d))) es rest := by
  have hread : Parser.Reads (separated element) (Lexeme.commas (es.map (Expr.lexemes d)))
      (es.map id) rest :=
    separated_reads hcomma hf hend hne h fun x hx => (hs x hx).tame
  rwa [List.map_id] at hread

end

/-! ## Parentheses -/

section

variable {m : ℕ}

theorem Lexeme.not_isKeyword_of_beginsExpr {l : Lexeme} (h : l.beginsExpr = true) {kind : String}
    (hk : kind ∈ Lexeme.foreignWords) : l.isKeyword kind = false := by
  simp only [beginsExpr, Bool.not_eq_true', Bool.or_eq_false_iff, List.any_eq_false] at h
  simpa using h.1 kind hk

/-- Where an expression begins, there is none of the words that begin something else. -/
theorem head_not_keyword {ls : List Lexeme} (h : ls.head?.any Lexeme.beginsExpr = true)
    {kinds : List String} (hk : kinds ⊆ Lexeme.foreignWords) :
    ls.head?.any (fun l => kinds.any l.isKeyword) = false := by
  cases hl : ls.head? with
  | none => rfl
  | some l =>
    rw [hl] at h
    exact List.any_eq_false.mpr fun kind hkind => by
      simpa using Lexeme.not_isKeyword_of_beginsExpr h (hk hkind)

/-- Where an expression begins, there is no sign that ends or joins something else. -/
theorem head_not_symbol {ls : List Lexeme} (h : ls.head?.any Lexeme.beginsExpr = true)
    {mark : String} (hm : mark ∈ Lexeme.foreignSigns) :
    ls.head?.any (·.isSymbol mark) = false := by
  cases hl : ls.head? with
  | none => rfl
  | some l =>
    rw [hl] at h
    simp only [Option.any_some, Lexeme.beginsExpr, Bool.not_eq_true', Bool.or_eq_false_iff,
      List.any_eq_false] at h
    simpa using h.2 mark hm

/-- Where an expression begins, there is no lexeme of some kind that begins none. -/
theorem head_none {ls : List Lexeme} (h : ls.head?.any Lexeme.beginsExpr = true) {is : Lexeme → Bool}
    (hnot : ∀ l, is l = true → l.beginsExpr = false) : ls.head?.any is = false := by
  cases hl : ls.head? with
  | none => rfl
  | some l =>
    rw [hl] at h
    by_contra htrue
    simp [hnot l (by simpa using htrue)] at h

/-- Where an expression begins, no query does. -/
theorem query_leaves_expr {ls : List Lexeme} (hhead : ls.head?.any Lexeme.beginsExpr = true)
    (htame : ∀ l ∈ ls, l.isTame = true) :
    Leaves ((Grammar.ofDepth d tokens (m + 1)).query .alone) none ls :=
  query_leaves htame (head_not_keyword hhead (List.subset_def.mpr (by decide))) (.inl rfl)

theorem Expr.Shape.head_append (h : e.Shape d) (ls : List Lexeme) :
    (e.lexemes d ++ ls).head?.any Lexeme.beginsExpr = true := by
  rw [Lexeme.head?_append h.lexemes_ne_nil]
  exact h.phrase.head

theorem Expr.Shape.head_commas {es : List Expr} (h : e.Shape d) (ls : List Lexeme) :
    (Lexeme.commas ((e :: es).map (Expr.lexemes d)) ++ ls).head?.any Lexeme.beginsExpr = true := by
  cases es with
  | nil => exact h.head_append ls
  | cons e' es =>
    simp only [List.map_cons, Lexeme.commas, List.append_assoc]
    exact h.head_append _

theorem tame_exprs {es : List Expr} (h : ∀ x ∈ es, x.Shape d) :
    ∀ l ∈ Lexeme.commas (es.map (Expr.lexemes d)), l.isTame = true := by
  refine Lexeme.tame_commas fun ls hls => ?_
  obtain ⟨x, hx, rfl⟩ := List.mem_map.mp hls
  exact (h x hx).tame

theorem tame_append {ls ms : List Lexeme} (hls : ∀ l ∈ ls, l.isTame = true)
    (hms : ∀ l ∈ ms, l.isTame = true) : ∀ l ∈ ls ++ ms, l.isTame = true :=
  fun l hl => (List.mem_append.mp hl).elim (hls l) (hms l)

/-- What stands between parentheses, as an operand. -/
theorem Node.Reads.parenthesized {g : Grammar} {ls : List Lexeme}
    (hlexemes : e.lexemes d = .symbol "(" :: (ls ++ [.symbol ")"])) (he : e.bare = e)
    (h : ∀ rest, Follows .operand rest →
      Parser.Reads (Parser.parenthesized g) ls e (.symbol ")" :: rest)) :
    (Node.expr .operand e).Reads d tokens g := by
  refine .of_reference (by rw [hlexemes]; rfl) (by simp [hlexemes]) fun rest hf => ?_
  rw [hlexemes]
  exact reference_of_primary (primary_reads_parentheses (parentheses_reads (h rest hf) he
    (noGroupWords_of_follows hf) (hf.head_any (by decide))))

/-- Behind an element of a list between parentheses, the list goes on or ends. -/
theorem Follows.closing {level : Level} (hl : .symbol ")" ∈ level.followers)
    (htame : ∀ l ∈ rest, l.isTame = true) : Follows level (.symbol ")" :: rest) :=
  .mark hl (by decide) rfl htame

/-- Projected expressions between commas. -/
theorem separated_items {g : Grammar} {es : List Expr} (hne : es ≠ []) (hs : ∀ x ∈ es, x.Shape d)
    (h : ∀ x ∈ es, (Node.item x).Reads d tokens g) (hf : Follows .item rest)
    (hend : rest.head?.any (·.isSymbol ",") = false) :
    Parser.Reads (separated (Parser.item g)) (Lexeme.commas (es.map (Expr.lexemes d))) es rest :=
  separated_exprs (by decide) hne hs (fun x hx rest hf => h x hx rest hf) hf hend

theorem Lexeme.lastOf_ne {ls : List Lexeme} (hne : ls ≠ []) (h : ls.getLast? ≠ some (.symbol ","))
    (before? : Option Lexeme) : Lexeme.lastOf before? ls ≠ some (.symbol ",") := by
  have hlast : Lexeme.lastOf before? ls = ls.getLast? := by
    obtain ⟨ls, l, rfl⟩ := (List.eq_nil_or_concat ls).resolve_left hne
    simp
  rwa [hlast]

theorem Node.Reads.group (h : (Node.expr .disjunction e).Reads d tokens (.ofDepth d tokens m))
    (hs : e.Shape d) (hq : e.isQuery = false) :
    (Node.expr .operand (.group e)).Reads d tokens (.ofDepth d tokens (m + 1)) := by
  refine .parenthesized (Expr.lexemes_group d e) rfl fun rest hf => ?_
  have htame : ∀ l ∈ Lexeme.symbol ")" :: rest, l.isTame = true :=
    List.forall_mem_cons.mpr ⟨rfl, hf.tame⟩
  have hitems := separated_items (List.cons_ne_nil e []) (by simpa using hs)
    (by simpa using h.item) (Follows.closing (by decide) hf.tame) rfl
  exact parenthesized_reads_group (query_leaves_expr (hs.head_append _) (tame_append hs.tame htame)) hitems
    hs.bare
    (by rintro q rfl; cases hq) (Lexeme.lastOf_ne hs.lexemes_ne_nil hs.phrase.ends)

theorem Node.Reads.tuple {e' : Expr} {es : List Expr}
    (h : ∀ x ∈ e :: e' :: es, (Node.expr .disjunction x).Reads d tokens (.ofDepth d tokens m))
    (hs : ∀ x ∈ e :: e' :: es, x.Shape d) (hq : e.isQuery = false) :
    (Node.expr .operand (.tuple (e :: e' :: es))).Reads d tokens (.ofDepth d tokens (m + 1)) := by
  refine .parenthesized (Expr.lexemes_tuple d _) rfl fun rest hf => ?_
  have hfirst : e.Shape d := hs e List.mem_cons_self
  have htame : ∀ l ∈ Lexeme.symbol ")" :: rest, l.isTame = true :=
    List.forall_mem_cons.mpr ⟨rfl, hf.tame⟩
  have hitems := separated_items (List.cons_ne_nil e (e' :: es)) hs (fun x hx => (h x hx).item)
    (Follows.closing (by decide) hf.tame) rfl
  exact parenthesized_reads_tuple (query_leaves_expr (hfirst.head_commas _)
    (tame_append (tame_exprs hs) htame)) hitems hfirst.bare (by rintro q rfl; cases hq)

theorem Node.Reads.subquery
    (h : (Node.query q).Reads d tokens (.ofDepth d tokens m)) (hs : q.Shape d) :
    (Node.expr .operand (.query (.nested q))).Reads d tokens (.ofDepth d tokens (m + 1)) := by
  refine .parenthesized (by rw [Expr.lexemes_query, Query.lexemes_nested]) rfl fun rest hf => ?_
  refine parenthesized_reads_query (h .alone _ (by decide) ⟨rfl, ?_⟩) hs.isPlain
  exact List.forall_mem_cons.mpr ⟨rfl, hf.tame⟩

theorem Node.Reads.negative
    (h : (Node.expr .operand e).Reads d tokens (.ofDepth d tokens m)) :
    (Node.expr .operand (.unary .negative e)).Reads d tokens (.ofDepth d tokens (m + 1)) := by
  intro rest hf
  rw [Expr.lexemes_negative]
  exact .of_reads (unary_reads_negative (h.reader (by decide) hf))

end

/-! ## Calls -/

/-- An expression that stays what it is behind a call: it has no words about nulls, and no set
operation is part of it. -/
structure Expr.IsClosed (e : Expr) : Prop where
  nulls : splitNulls e = (e, [])
  query : ∀ q, e = .query q → withEnd q = q

/-- Whether the expression of a tree is closed. -/
def Node.IsClosed : Node → Prop
  | path e | expr _ e | argument e => e.IsClosed
  | _ => True

/-- All expressions are closed but those that the forms of covered trees leave out. -/
theorem Covered.isClosed {node : Node} (h : Covered d node) : node.IsClosed := by
  induction h with
  | subquery => exact ⟨rfl, by rintro _ ⟨⟩; rfl⟩
  | column _ ih | rise _ _ ih | argument _ ih => exact ih
  | isDistinct => exact ⟨rfl, nofun⟩
  | _ => first | trivial | exact ⟨rfl, nofun⟩

section

variable {g : Grammar} {m : ℕ} {f : String} {es : List Expr}

/-- A call or what stands for one, as an operand. -/
theorem Node.Reads.of_function {l : Lexeme} {ls : List Lexeme} (hlexemes : e.lexemes d = l :: ls)
    (hl : l.beginsPrimary = false ∧ l.beginsType = false ∧ beginsSign l = false ∧
      l.isSymbol "\x7b" = false)
    (h : ∀ rest, Follows .operand rest →
      Parser.Reads (functionWith g (partCall g) true false false) (l :: ls) (some e) rest) :
    (Node.expr .operand e).Reads d tokens g := by
  refine .of_reference (by rw [hlexemes]; simp [hl]) (by simp [hlexemes]) fun rest hf => ?_
  rw [hlexemes]
  exact reference_of_function (primary_leaves hl.1)
    (function_reads (List.cons_ne_nil _ _) hl.2.2.2 (h rest hf))

theorem Lexeme.noOperand_of_namesCall {l : Lexeme} (h : l.namesCall = true)
    (htype : l.beginsType = false) : l.beginsPrimary = false ∧ l.beginsType = false ∧
      beginsSign l = false ∧ l.isSymbol "\x7b" = false := by
  cases l with
  | keyword kind s =>
    have hnot : ∀ kind ∈ ["NULL", "TRUE", "FALSE", "NOT"], Keyword.isFunction kind = false ∨
        Keyword.isType kind = true := by decide
    have hne : ∀ kind' ∈ ["NULL", "TRUE", "FALSE", "NOT"], kind ≠ kind' := by
      rintro _ hmem rfl
      simp only [beginsType] at htype
      rcases hnot kind hmem with hnot | hnot <;> simp_all [namesCall]
    simp_all [beginsPrimary, beginsSign, isSymbol]
  | word s => exact ⟨rfl, rfl, rfl, rfl⟩
  | _ => simp [namesCall] at h

/-- The arguments of a call, of which there may be none. -/
theorem arguments_read (hs : ∀ x ∈ es, x.Shape d)
    (h : ∀ x ∈ es, (Node.argument x).Reads d tokens (.ofDepth d tokens (m + 1)))
    (htame : ∀ l ∈ rest, l.isTame = true) (canAlias : Bool) :
    Parser.Reads (arguments (.ofDepth d tokens (m + 1)) canAlias)
      (Lexeme.commas (es.map (Expr.lexemes d))) es (.symbol ")" :: rest) := by
  have hf : Follows .argument (.symbol ")" :: rest) := .closing (by decide) htame
  by_cases hne : es = []
  · subst hne
    have htames : ∀ l ∈ Lexeme.symbol ")" :: rest, l.isTame = true := hf.tame
    have hassign : Leaves ((Grammar.ofDepth d tokens (m + 1)).assignment) none
        (.symbol ")" :: rest) := assignment_leaves (by decide) htame
    have hquery : Leaves ((Grammar.ofDepth d tokens (m + 1)).query .alone) none
        (.symbol ")" :: rest) := query_leaves htames rfl (.inl rfl)
    exact separated_leaves (argument_leaves htames hquery hassign hf) rfl
  · exact separated_exprs (by decide) hne hs (fun x hx rest hf => h x hx canAlias rest hf) hf rfl

theorem Node.Reads.argument (h : (Node.expr .disjunction e).Reads d tokens (.ofDepth d tokens m))
    (hs : e.Shape d) (hc : e.IsClosed) :
    (Node.argument e).Reads d tokens (.ofDepth d tokens (m + 1)) := by
  intro canAlias rest hf
  have htame := tame_append hs.tame hf.tame
  have hcolon : rest.head?.any (·.isSymbol ":=") = false := hf.head_any (by decide)
  have hhead := hs.head_append rest
  have hforeign : (e.lexemes d ++ rest).head?.any (fun l => ["DISTINCT", "ALL"].any l.isKeyword) =
      false := head_not_keyword hhead (List.subset_def.mpr (by decide))
  have hwords : (e.lexemes d ++ rest).head?.any
      (fun l => l.isKeyword "DISTINCT" || l.isKeyword "ALL") = false :=
    any_eq_false hforeign fun l hl => by simpa using hl
  exact argument_reads htame (query_leaves_expr hhead htame)
    (assignment_reads (h.condition (hf.condition rfl)) hcolon) hs.bare
    (fun q hq => setOperations_leaves hf (hc.query q hq)) hwords hf

/-- A call without words about nulls among its arguments. -/
theorem outerNulls_calling (hs : ∀ x ∈ es, x.bare = x) (hes : ∀ x ∈ es, splitNulls x = (x, [])) :
    outerNulls (.calling f es) = (.calling f es, []) := by
  have hnone : (es.map fun x => splitNulls x.bare).flatMap Prod.snd = [] := by
    rw [List.flatMap_eq_nil_iff]
    rintro _ hmem
    obtain ⟨x, hx, rfl⟩ := List.mem_map.mp hmem
    rw [hs x hx, hes x hx]
  simp [Expr.calling, outerNulls, hnone]

/-- The call of a function, with what is read behind it. -/
theorem IsFunctionName.reads {ls ms : List Lexeme} {e' : Expr} (hf : KeepsFunction d f es)
    (h : ∀ canAlias, Parser.Reads (arguments g canAlias) ls es (.symbol ")" :: (ms ++ rest)))
    (hw : Parser.Reads (windowed g (.calling f es)) ms e' rest) :
    Parser.Reads (functionWith g (partCall g) true false false)
      (.ofWord f :: .symbol "(" :: (ls ++ .symbol ")" :: ms)) (some e') rest := by
  have hcontent : Text.upper (Lexeme.ofWord f).content = f := by
    rw [Lexeme.content_ofWord, hf.name.upper]
  have hquoted (s : String) : Lexeme.ofWord f ≠ .quoted s := by
    rcases Lexeme.ofWord_cases f with h | ⟨kind, h⟩ <;> simp [h]
  have hcall := functionCall_reads hquoted h (by rw [hcontent]; exact hf.call)
  rw [hcontent] at hcall
  exact functionWith_reads hf.name.call hcall hw

theorem Expr.lexemes_call (hf : IsFunctionName d f) (es : List Expr) :
    (Expr.calling f es).lexemes d =
      .ofWord f :: .symbol "(" :: (Lexeme.commas (es.map (Expr.lexemes d)) ++ [.symbol ")"]) :=
  lexemes_calling d (Name.parts_plain hf.word) hf.parentheses es

/-- Behind an operand, nothing of a call stands. -/
theorem windowed_end (hf : Follows .operand rest) (he : e.bare = e)
    (hnulls : outerNulls e = (e, [])) : Leaves (windowed g e) e rest :=
  windowed_leaves he hnulls (noGroupWords_of_follows hf) (hf.head_any (by decide))

theorem Node.Reads.call (hf : KeepsFunction d f es) (hs : ∀ x ∈ es, x.Shape d)
    (hc : ∀ x ∈ es, x.IsClosed)
    (h : ∀ x ∈ es, (Node.argument x).Reads d tokens (.ofDepth d tokens (m + 1))) :
    (Node.expr .operand (.calling f es)).Reads d tokens (.ofDepth d tokens (m + 1)) := by
  have hlexemes := Expr.lexemes_call hf.name es
  refine .of_function hlexemes (Lexeme.noOperand_of_namesCall hf.name.call hf.name.noType)
    fun rest hrest => ?_
  exact IsFunctionName.reads hf (fun canAlias => arguments_read hs h hrest.tame canAlias)
    (windowed_end hrest rfl (outerNulls_calling (fun x hx => (hs x hx).bare) fun x hx => (hc x hx).nulls))

/-- A list of one element. -/
theorem separated_one {element : Parser (Option Expr)} {ls : List Lexeme}
    (h : Parser.Reads element ls (some e) rest) (hend : rest.head?.any (·.isSymbol ",") = false) :
    Parser.Reads (separated element) ls [e] rest := by
  intro last?
  simp [separated, separatedUpTo, h _, symbol_leaves _ hend _]

/-- Conditions between commas. -/
theorem separated_conditions (hne : es ≠ []) (hs : ∀ x ∈ es, x.Shape d)
    (h : ∀ x ∈ es, (Node.expr .disjunction x).Reads d tokens g) (hf : Follows .disjunction rest)
    (hend : rest.head?.any (·.isSymbol ",") = false) :
    Parser.Reads (separated (disjunction g)) (Lexeme.commas (es.map (Expr.lexemes d))) es rest :=
  separated_exprs (by decide) hne hs (fun x hx _ hf => (h x hx).condition hf) hf hend

theorem Node.Reads.callDistinct (hne : es ≠ [])
    (hf : KeepsFunction d f [.phrase [.word "DISTINCT", .listed es]]) (hs : ∀ x ∈ es, x.Shape d)
    (h : ∀ x ∈ es, (Node.expr .disjunction x).Reads d tokens (.ofDepth d tokens m)) :
    (Node.expr .operand (.calling f [.phrase [.word "DISTINCT", .listed es]])).Reads d tokens
      (.ofDepth d tokens (m + 1)) := by
  have hlexemes := Expr.lexemes_call hf.name [.phrase [.word "DISTINCT", .listed es]]
  have harguments : Lexeme.commas ([.phrase [.word "DISTINCT", .listed es]].map (Expr.lexemes d)) =
      kw "DISTINCT" :: Lexeme.commas (es.map (Expr.lexemes d)) := by
    simp [Lexeme.commas, Expr.lexemes_phrase, Expr.lexemes_word, Expr.lexemes_listed,
      Lexeme.ofWord_grammar "DISTINCT" (by decide)]
  rw [harguments] at hlexemes
  refine .of_function hlexemes (Lexeme.noOperand_of_namesCall hf.name.call hf.name.noType)
    fun rest hrest => ?_
  have hclosing : Follows .argument (.symbol ")" :: rest) := .closing (by decide) hrest.tame
  have hlist := separated_conditions hne hs h (hclosing.condition rfl) rfl
  exact IsFunctionName.reads hf
    (fun canAlias => separated_one (argument_reads_distinct hne
      (tame_append (tame_exprs hs) hclosing.tame) hlist hclosing) rfl)
    (windowed_end hrest rfl (outerNulls_calling (by simp [Expr.bare]) (by simp [splitNulls])))

/-- The lexemes of a list behind a word, if there is a list. -/
def listLexemes (d : Dialect) (word : String) (es : List Expr) : List Lexeme :=
  if es = [] then [] else kw word :: Lexeme.commas (es.map (Expr.lexemes d))

theorem Parser.ListsBehind.of_reads {word : String} {p : Parser (List Expr)}
    (h : es ≠ [] → Parser.Reads p (Lexeme.commas (es.map (Expr.lexemes d))) es rest) :
    ListsBehind word p (listLexemes d word es) es rest := by
  by_cases hne : es = []
  · exact .inl ⟨hne, by simp [listLexemes, hne]⟩
  · exact .inr ⟨hne, _, by simp [listLexemes, hne], h hne⟩

theorem tame_listLexemes {word : String} (hword : (kw word).isTame = true)
    (hs : ∀ x ∈ es, x.Shape d) : ∀ l ∈ listLexemes d word es, l.isTame = true := by
  rw [listLexemes]
  split
  · nofun
  · exact List.forall_mem_cons.mpr ⟨hword, tame_exprs hs⟩

theorem Expr.lexemes_over (hf : IsFunctionName d f) (es groups keys : List Expr) :
    ((Expr.calling f es).related "OVER" (.group (.phrase (windowParts groups keys)))).lexemes d =
      .ofWord f :: .symbol "(" :: (Lexeme.commas (es.map (Expr.lexemes d)) ++ .symbol ")" ::
        kw "OVER" :: .symbol "(" :: (listLexemes d "PARTITION BY" groups ++
          (listLexemes d "ORDER BY" keys ++ [.symbol ")"]))) := by
  have hwindow : (windowParts groups keys).flatMap (Expr.lexemes d) =
      listLexemes d "PARTITION BY" groups ++ listLexemes d "ORDER BY" keys := by
    by_cases hgroups : groups = [] <;> by_cases hkeys : keys = [] <;>
      simp [windowParts, listLexemes, hgroups, hkeys, Expr.lexemes_word, Expr.lexemes_listed,
        Lexeme.ofWord_grammar "PARTITION BY" (by decide), Lexeme.ofWord_grammar "ORDER BY" (by decide)]
  simp [Expr.related, Expr.lexemes_phrase, Expr.lexemes_call hf, Expr.lexemes_word,
    Expr.lexemes_group, hwindow, Lexeme.ofWord_grammar "OVER" (by decide)]

theorem Node.Reads.windowed {groups keys : List Expr} (hf : KeepsFunction d f es)
    (hs : ∀ x ∈ es, x.Shape d) (hc : ∀ x ∈ es, x.IsClosed) (hsg : ∀ x ∈ groups, x.Shape d)
    (hsk : ∀ x ∈ keys, x.Shape d)
    (h : ∀ x ∈ es, (Node.argument x).Reads d tokens (.ofDepth d tokens (m + 1)))
    (hg : ∀ x ∈ groups, (Node.expr .disjunction x).Reads d tokens (.ofDepth d tokens m))
    (hk : ∀ x ∈ keys, (Node.key x).Reads d tokens (.ofDepth d tokens (m + 1))) :
    (Node.expr .operand ((Expr.calling f es).related "OVER"
      (.group (.phrase (windowParts groups keys))))).Reads d tokens (.ofDepth d tokens (m + 1)) := by
  have hlexemes := Expr.lexemes_over hf.name es groups keys
  refine .of_function hlexemes (Lexeme.noOperand_of_namesCall hf.name.call hf.name.noType)
    fun rest hrest => ?_
  have hclosing : ∀ l ∈ Lexeme.symbol ")" :: rest, l.isTame = true :=
    List.forall_mem_cons.mpr ⟨rfl, hrest.tame⟩
  have htameKeys : ∀ l ∈ listLexemes d "ORDER BY" keys ++ .symbol ")" :: rest, l.isTame = true :=
    tame_append (tame_listLexemes (by decide) hsk) hclosing
  have htameGroups : ∀ l ∈ listLexemes d "PARTITION BY" groups ++
      (listLexemes d "ORDER BY" keys ++ .symbol ")" :: rest), l.isTame = true :=
    tame_append (tame_listLexemes (by decide) hsg) htameKeys
  have hbehind : Follows .disjunction (listLexemes d "ORDER BY" keys ++ .symbol ")" :: rest) := by
    by_cases hkeys : keys = []
    · simpa [listLexemes, hkeys] using Follows.closing (by decide) hrest.tame
    · simp only [listLexemes, hkeys, if_false] at htameKeys ⊢
      exact .mark (by decide) (by decide) (by decide) (List.forall_mem_cons.mp htameKeys).2
  have hgroupBy : ListsBehind "PARTITION BY" (separated (disjunction (.ofDepth d tokens m)))
      (listLexemes d "PARTITION BY" groups) groups
      (listLexemes d "ORDER BY" keys ++ .symbol ")" :: rest) :=
    .of_reads fun hne => separated_conditions hne hsg hg hbehind (by
      by_cases hkeys : keys = [] <;> simp [listLexemes, hkeys])
  have hsortBy : ListsBehind "ORDER BY" (separated (sortKey (.ofDepth d tokens (m + 1))))
      (listLexemes d "ORDER BY" keys) keys (.symbol ")" :: rest) :=
    .of_reads fun hne => separated_exprs (by decide) hne hsk (fun x hx _ hf => hk x hx _ hf)
      (.closing (by decide) hrest.tame) rfl
  have hwindowed := windowed_reads_over (e := .calling f es) rfl
    (outerNulls_calling (fun x hx => (hs x hx).bare) fun x hx => (hc x hx).nulls)
    (window_reads hgroupBy hsortBy)
  refine IsFunctionName.reads hf (fun canAlias => arguments_read hs h ?_ canAlias) hwindowed
  rw [List.cons_append, List.cons_append]
  refine List.forall_mem_cons.mpr ⟨by decide, List.forall_mem_cons.mpr ⟨by decide, ?_⟩⟩
  simpa [List.append_assoc] using htameGroups

theorem Node.Reads.cast {isTry : Bool} {s : String} {sizes : List String} {head : TypeHead}
    (h : (Node.expr .disjunction e).Reads d tokens (.ofDepth d tokens (m + 1)))
    (hhead : typeHead? (.ofWord s) = some head) (hplain : head.isPlain = true)
    (hprinted : head.printed = s)
    (hsizes : ∀ size ∈ sizes, (Lexeme.number size).isTame = true)
    (ht : (Lexeme.ofWord s).isTame = true) :
    (Node.expr .operand (.cast isTry e (.type s (sizes.map .number) false))).Reads d tokens
      (.ofDepth d tokens (m + 2)) := by
  have hlexemes := Expr.lexemes_cast d isTry e (.type s (sizes.map .number) false)
  rw [Expr.lexemes_type] at hlexemes
  refine .of_function hlexemes (by cases isTry <;> exact ⟨rfl, rfl, rfl, rfl⟩) fun rest hrest => ?_
  have htame : ∀ l ∈ (Lexeme.ofWord s :: sizeLexemes sizes) ++ .symbol ")" :: rest,
      l.isTame = true := by
    refine tame_append (List.forall_mem_cons.mpr ⟨ht, ?_⟩)
      (List.forall_mem_cons.mpr ⟨rfl, hrest.tame⟩)
    rw [sizeLexemes]
    split
    · exact List.forall_mem_nil _
    · refine List.forall_mem_cons.mpr ⟨rfl, tame_append (Lexeme.tame_commas fun ls hls => ?_)
        (List.forall_mem_singleton.mpr rfl)⟩
      obtain ⟨size, hsize, rfl⟩ := List.mem_map.mp hls
      simpa using hsizes size hsize
  have hnumber (size : String) (rest : List Lexeme) (hf : Follows .argument rest) :
      Parser.Reads (unary (.ofDepth d tokens m)) [.number size] (some (.number size)) rest := by
    have hread : (Node.expr .operand (.number size)).Reads d tokens (.ofDepth d tokens m) :=
      .number size
    have hoperand := hread.reader (by decide) hf.operand
    rwa [Expr.lexemes_number] at hoperand
  have htype : Parser.Reads (type (.ofDepth d tokens (m + 1)) false) _ _ (.symbol ")" :: rest) :=
    type_reads hhead hplain hnumber hsizes hrest.tame
  rw [hprinted] at htype
  have hcondition := h.condition (.mark (l := kw "AS") (by decide) (by decide) (by decide) htame)
  exact functionWith_reads_cast hcondition htype (windowed_end hrest rfl rfl)

/-- A query begins with its word. -/
theorem Query.Shape.lexemes_eq (hs : q.Shape d) :
    ∃ l ls, (l = kw "SELECT" ∨ l = kw "WITH") ∧ q.lexemes d = l :: ls := by
  obtain ⟨w, ps, hw, hparts⟩ := hs.first
  refine ⟨kw w, Layout.lexemes ps, hw.imp (congrArg kw) (congrArg kw), ?_⟩
  have hkeyword : Lexeme.ofWord w = kw w := by
    rcases hw with rfl | rfl <;> exact Lexeme.ofWord_grammar _ (by decide)
  rw [Query.lexemes, hparts, Layout.lexemes_cons, Layout.lexemes_word, hkeyword]
  rfl

theorem Expr.lexemes_exists (d : Dialect) (q : Query) :
    (Expr.calling "EXISTS" [.query q]).lexemes d =
      kw "EXISTS" :: .symbol "(" :: (q.lexemes d ++ [.symbol ")"]) := by
  rw [Expr.lexemes_calling d (Name.parts_plain (by decide)) (.inr (by decide)),
    Lexeme.ofWord_grammar _ (by decide)]
  simp [Lexeme.commas, Expr.lexemes_query]

theorem Node.Reads.exists (h : (Node.query q).Reads d tokens (.ofDepth d tokens m))
    (hs : q.Shape d) :
    (Node.expr .operand (.calling "EXISTS" [.query q])).Reads d tokens
      (.ofDepth d tokens (m + 1)) := by
  obtain ⟨l, ls, hl, hquery⟩ := hs.lexemes_eq
  have hlexemes := Expr.lexemes_exists d q
  rw [hquery] at hlexemes
  refine .of_function hlexemes (by decide) fun rest hrest => ?_
  have hread := h .alone (.symbol ")" :: rest) (by decide)
    ⟨rfl, List.forall_mem_cons.mpr ⟨rfl, hrest.tame⟩⟩
  rw [hquery] at hread
  exact functionWith_reads_exists hread (by rcases hl with rfl | rfl <;> simp)

/-! ### Cases -/

/-- The words inside a case follow its conditions. -/
theorem Follows.caseWord {w : String} {ls : List Lexeme} (hw : w ∈ ["THEN", "WHEN", "ELSE", "END"])
    (hls : ∀ l ∈ ls, l.isTame = true) : Follows .disjunction (kw w :: ls) := by
  have hwords : ∀ w ∈ ["THEN", "WHEN", "ELSE", "END"], kw w ∈ Level.disjunction.followers ∧
      (kw w).isTame = true := by decide
  exact .mark (hwords w hw).1 (by simp) (hwords w hw).2 hls

/-- Behind the branches of a case, the other result or the end follows. -/
theorem Follows.caseEnd {otherwise? : Option Expr} (hs : ∀ e ∈ otherwise?, e.Shape d)
    (htame : ∀ l ∈ rest, l.isTame = true) :
    Follows .disjunction (Expr.elseLexemes d otherwise? ++ kw "END" :: rest) := by
  have hend : Follows .disjunction (kw "END" :: rest) := .caseWord (by decide) htame
  cases otherwise? with
  | none => exact hend
  | some e => exact .caseWord (by decide) (tame_append (hs e rfl).tame hend.tame)

section

variable {b : Expr × Expr} {branches : List (Expr × Expr)}

/-- What follows a branch follows its result, and what is in front of that follows its test. -/
theorem Follows.caseResult (hs : b.2.Shape d) (hf : Follows .disjunction rest) :
    Follows .disjunction (kw "THEN" :: (b.2.lexemes d ++ rest)) :=
  .caseWord (by decide) (tame_append hs.tame hf.tame)

/-- A branch follows what the branch behind it follows. -/
theorem Follows.caseBranch (hs : b.1.Shape d ∧ b.2.Shape d) (hf : Follows .disjunction rest) :
    Follows .disjunction (Expr.branchLexemes d b ++ rest) := by
  have hwhen : Follows .disjunction (kw "WHEN" :: (b.1.lexemes d ++
      kw "THEN" :: (b.2.lexemes d ++ rest))) :=
    .caseWord (by decide) (tame_append hs.1.tame (hf.caseResult hs.2).tame)
  simpa [Expr.branchLexemes] using hwhen

theorem Follows.caseBranches (hs : ∀ b ∈ branches, b.1.Shape d ∧ b.2.Shape d)
    (hf : Follows .disjunction rest) :
    Follows .disjunction (branches.flatMap (Expr.branchLexemes d) ++ rest) := by
  induction branches with
  | nil => exact hf
  | cons b branches ih =>
    obtain ⟨hb, hbranches⟩ := List.forall_mem_cons.mp hs
    rw [List.flatMap_cons, List.append_assoc]
    exact .caseBranch hb (ih hbranches)

/-- The branches of a case, in front of a word that begins none. -/
theorem branches_read (hs : ∀ b ∈ branches, b.1.Shape d ∧ b.2.Shape d)
    (h : ∀ b ∈ branches, (Node.expr .disjunction b.1).Reads d tokens (.ofDepth d tokens m) ∧
      (Node.expr .disjunction b.2).Reads d tokens (.ofDepth d tokens m))
    (hf : Follows .disjunction rest) (hend : rest.head?.any (·.isKeyword "WHEN") = false) :
    Parser.Reads (many (branch (.ofDepth d tokens (m + 1))))
      (branches.flatMap (Expr.branchLexemes d)) branches rest := by
  have hnone : Leaves (branch (.ofDepth d tokens (m + 1))) none rest := by
    intro last?
    simp [branch, keyword_leaves "WHEN" hend last?]
  have hread : Parser.Reads (many (branch (.ofDepth d tokens (m + 1))))
      (branches.flatMap (Expr.branchLexemes d)) (branches.map id) rest := by
    refine many_reads hf (fun b hb _ hls => .caseBranch (hs b hb) hls) (fun b hb ls hls => ?_)
      (fun b _ => List.cons_ne_nil _ _) hnone
    obtain ⟨htest, hresult⟩ := h b hb
    exact branch_reads (htest.condition (hls.caseResult (hs b hb).2)) (hresult.condition hls)
  rwa [List.map_id] at hread

end

theorem Node.Reads.case {subject? otherwise? : Option Expr} {branches : List (Expr × Expr)}
    (hne : branches ≠ [])
    (hsubject : ∀ e ∈ subject?, e.Shape d ∧
      (Node.expr .disjunction e).Reads d tokens (.ofDepth d tokens m))
    (htests : ∀ b ∈ branches, b.1.Shape d ∧
      (Node.expr .disjunction b.1).Reads d tokens (.ofDepth d tokens m))
    (hresults : ∀ b ∈ branches, b.2.Shape d ∧
      (Node.expr .disjunction b.2).Reads d tokens (.ofDepth d tokens m))
    (hotherwise : ∀ e ∈ otherwise?, e.Shape d ∧
      (Node.expr .disjunction e).Reads d tokens (.ofDepth d tokens m)) :
    (Node.expr .operand (.case subject? branches otherwise?)).Reads d tokens
      (.ofDepth d tokens (m + 1)) := by
  refine .of_function (Expr.lexemes_case d _ _ _) (by decide) fun rest hrest => ?_
  have hshapes : ∀ b ∈ branches, b.1.Shape d ∧ b.2.Shape d :=
    fun b hb => ⟨(htests b hb).1, (hresults b hb).1⟩
  have helse : Follows .disjunction (Expr.elseLexemes d otherwise? ++ kw "END" :: rest) :=
    .caseEnd (fun e he => (hotherwise e he).1) hrest.tame
  have hbranches := branches_read (m := m) hshapes
    (fun b hb => ⟨(htests b hb).2, (hresults b hb).2⟩) helse (by cases otherwise? <;> rfl)
  have hwhen := Follows.caseBranches hshapes helse
  obtain ⟨⟨test, result⟩, more, rfl⟩ := List.exists_cons_of_ne_nil hne
  have hsubjectReads : Parser.Reads (disjunction (.ofDepth d tokens m))
      (subject?.elim [] (Expr.lexemes d)) subject?
      (((test, result) :: more).flatMap (Expr.branchLexemes d) ++
        (Expr.elseLexemes d otherwise? ++ kw "END" :: rest)) := by
    cases subject? with
    | none =>
      have hnone : Leaves (Parser.reader (.ofDepth d tokens m) .disjunction) none
          (((test, result) :: more).flatMap (Expr.branchLexemes d) ++
            (Expr.elseLexemes d otherwise? ++ kw "END" :: rest)) :=
        reader_leaves (by decide) (by decide)
      exact hnone
    | some e => exact (hsubject e rfl).2.condition hwhen
  have helseReads : Expr.elseLexemes d otherwise? = [] ∧ otherwise? = none ∨
      ∃ ms e, Expr.elseLexemes d otherwise? = kw "ELSE" :: ms ∧ otherwise? = some e ∧
        Parser.Reads (disjunction (.ofDepth d tokens m)) ms (some e) (kw "END" :: rest) := by
    cases otherwise? with
    | none => exact .inl ⟨rfl, rfl⟩
    | some e => exact .inr ⟨_, e, rfl, rfl,
        (hotherwise e rfl).2.condition (.caseWord (by decide) hrest.tame)⟩
  refine functionWith_reads_case (fun c => case_reads hne hsubjectReads hbranches helseReads ?_ ?_)
    (windowed_end hrest rfl rfl)
  · cases subject? with
    | none => rfl
    | some e =>
      exact head_not_symbol ((hsubject e rfl).1.head_append _) (by decide)
  · simp [Expr.branchLexemes]

end

end QueryBook.Sql
