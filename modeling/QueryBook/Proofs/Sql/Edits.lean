import QueryBook.Proofs.Sql.Conditions
import QueryBook.Proofs.Sql.Edited

/-!
# Edited selects are read back

An edit of a covered select is covered again, for it puts covered parts in the place of others
(`Covered.filter`, `Covered.project`). So the text of the edited select is read as the edited select:
its condition is the conjunction of the equalities that were asked for
(`replaceConditions_readBack`), its projected expressions are the columns
(`replaceColumns_readBack`), and all else is kept. Edits of the edited text therefore overwrite and
commute as edits of the tree do (`edits_overwrite_commute`).
-/

namespace QueryBook

open Sql
open Condition (IsEntry Equates conjunction)

variable {description : String} {d : Dialect} {sql : String} {s : Select}

/-! ## Selects with other parts -/

namespace Sql

namespace SelectOf

variable (s : Select)

theorem filter_filter (e? e'? : Option Expr) : (s.filter e?).filter e'? = s.filter e'? := rfl

theorem project_project (items items' : List Expr) :
    (s.project items).project items' = s.project items' := rfl

theorem project_filter (items : List Expr) (e? : Option Expr) :
    (s.filter e?).project items = (s.project items).filter e? := rfl

end SelectOf

/-- A covered select is one of known parts behind named queries, which can be kept in front of other
parts. -/
theorem Covered.exists_outline (h : Covered d (.query (.select s))) :
    ∃ (o : Outline) (with? : Option (With Expr Query)), s = { o.select with with? := with? } ∧
      Covered d (.select o) ∧ ∀ o' : Outline, Covered d (.select o') →
        Covered d (.query (.select { o'.select with with? := with? })) := by
  generalize hq : Query.select s = q at h
  cases h with
  | @query q hchain =>
    cases hchain with
    | @chain o ho =>
      obtain rfl : s = o.select := Query.select.inj hq
      exact ⟨o, none, rfl, ho, fun o' ho' => .query (.chain ho')⟩
    | @combined ws left o =>
      simp only [Parser.withEnd] at hq
      split at hq <;> cases hq
  | @withTables isRecursive tables q _ hne htables hchain hwith =>
    subst hq
    cases hchain with
    | @chain o ho =>
      obtain rfl : { o.select with with? := some ⟨[], isRecursive, tables⟩ } = s := by
        simpa [Parser.withEnd, Parser.withNamed] using hwith
      exact ⟨o, _, rfl, ho, fun o' ho' => .withTables hne htables (.chain ho') rfl⟩
    | @combined ws left o =>
      simp only [Parser.withEnd] at hwith
      split at hwith <;> cases hwith

/-- A covered select with another condition. -/
theorem Covered.filter (h : Covered d (.query (.select s))) {e : Expr}
    (he : Covered d (.expr .disjunction e)) : Covered d (.query (.select (s.filter (some e)))) := by
  obtain ⟨o, with?, rfl, ho, hother⟩ := h.exists_outline
  cases ho with
  | select hne hitems htop hfrom hjoins hsource hwhere hgroups hgrouping hhaving hkeys hlimit hcount
      hoffset hends =>
    exact hother { o with where? := some e } (.select hne hitems htop hfrom hjoins hsource
      (fun _ hx => Option.mem_some_iff.mp hx ▸ he) hgroups hgrouping hhaving hkeys hlimit hcount
      hoffset hends)

/-- A covered select with other projected expressions. -/
theorem Covered.project (h : Covered d (.query (.select s))) {items : List Expr}
    (hd : d.leadingLimit = false) (hne : items ≠ []) (hitems : ∀ e ∈ items, Covered d (.item e)) :
    Covered d (.query (.select (s.project items))) := by
  obtain ⟨o, with?, rfl, ho, hother⟩ := h.exists_outline
  cases ho with
  | select _ _ _ hfrom hjoins hsource hwhere hgroups hgrouping hhaving hkeys hlimit hcount hoffset
      hends =>
    exact hother { o with items := items } (.select hne hitems (fun htop => by simp [hd] at htop)
      hfrom hjoins hsource hwhere hgroups hgrouping hhaving hkeys hlimit hcount hoffset hends)

/-- The text of a select depends on its condition only by the text of the condition. -/
theorem SameText.printSelect_eq {e e' : Expr} (h : SameText d e e') (s : Select) :
    printSelect d (s.filter (some e)) = printSelect d (s.filter (some e')) := by
  obtain ⟨front, behind, hprint⟩ := printSelect_filter d s
  rw [hprint, hprint, h]

end Sql

/-! ## Columns -/

/-- The columns of a list as projected expressions. -/
def columnItems (columns : List String) : List Expr :=
  columns.map fun c => .name (.plain c)

theorem columnItems_ne_nil {columns : List String} (hne : columns ≠ []) : columnItems columns ≠ [] := by
  simpa [columnItems] using hne

theorem covered_columnItems {columns : List String} (h : ∀ c ∈ columns, IsColumnName c) :
    ∀ e ∈ columnItems columns, Covered d (.item e) := by
  intro e he
  obtain ⟨c, hc, rfl⟩ := List.mem_map.mp he
  exact (h c hc).covered_item

/-! ## Edits that succeed -/

theorem Outcome.result_bind {α β : Type} {x : Outcome α} {a : α} (h : x.result = .ok a)
    (f : α → Outcome β) : (x >>= f).result = (f a).result := by
  rw [bind_ok h]

theorem dialectOf_described (h : (description, d) ∈ Dialect.described) :
    dialectOf description = .ok d ∧ d ∈ Dialect.all := by
  refine ⟨?_, List.mem_map_of_mem h⟩
  simp only [Dialect.described, List.mem_cons, List.not_mem_nil, or_false, Prod.mk.injEq] at h
  rcases h with ⟨rfl, rfl⟩ | ⟨rfl, rfl⟩ | ⟨rfl, rfl⟩ | ⟨rfl, rfl⟩ <;> rfl

theorem Dialect.generic_described : ("", generic) ∈ described := by
  simp [described]

theorem Dialect.mysql_described : ("mysql", mysql) ∈ described := by
  simp [described]

/-- No select is the empty text. -/
theorem ne_empty_of_parseSelect (hd : d ∈ Dialect.all) (h : parseSelect d sql = .ok s) : sql ≠ "" := by
  rintro rfl
  have hnone : ∀ d ∈ Dialect.all, (parseSelect d "").toBool = false := by decide
  have hnot := hnone d hd
  rw [h] at hnot
  cases hnot

section

variable (hdialect : (description, d) ∈ Dialect.described) (hread : parseSelect d sql = .ok s)
include hdialect hread

theorem readSelect_eq : readSelect description sql = ⟨[], .ok (d, s)⟩ := by
  rw [readSelect, (dialectOf_described hdialect).1, Outcome.ofExcept, Outcome.bind_ok rfl, hread]
  rfl

/-- The result of a replaced condition, which has been built. -/
theorem replaceConditions_eq {entries : List (String × Value)} (hne : entries ≠ []) {e : Expr}
    (hbuild : buildCondition entries = .ok (some e)) :
    (replaceConditions description sql entries).result =
      .ok (printSelect d (s.filter (some e))) := by
  have hsql : sql ≠ "" := ne_empty_of_parseSelect (dialectOf_described hdialect).2 hread
  have hempty : (sql.isEmpty || entries.isEmpty) = false := by simp [hsql, hne]
  rw [replaceConditions, hempty, if_neg (by decide), readSelect_eq hdialect hread,
    Outcome.bind_ok rfl]
  dsimp only
  rw [hbuild, Outcome.ofExcept, Outcome.bind_ok rfl, Outcome.bind_ok rfl]
  rfl

/-- The result of replaced columns. -/
theorem replaceColumns_eq {columns : List String} (hne : columns ≠ [])
    (hcolumns : ∀ c ∈ columns, IsColumnName c) :
    (replaceColumns description sql columns).result =
      .ok (printSelect d (s.project (columnItems columns))) := by
  have hsql : sql ≠ "" := ne_empty_of_parseSelect (dialectOf_described hdialect).2 hread
  have hempty : (sql.isEmpty || columns.isEmpty) = false := by simp [hsql, hne]
  rw [replaceColumns, hempty, if_neg (by decide), readSelect_eq hdialect hread, Outcome.bind_ok rfl]
  dsimp only
  rw [mapM_columnOf hcolumns, ← columnItems, Outcome.ofExcept, Outcome.bind_ok rfl, Outcome.bind_ok rfl]
  rfl

end

/-! ## A sample -/

namespace Sample

/-- A plain name as an expression. -/
def column (c : String) : Expr :=
  .name (.plain c)

/-- A select with a test of a text. -/
def tested : Outline where
  isDistinct := false
  items := [column "a"]
  from? := some (.expr (column "u"))
  joins := []
  where? := some (.binary .equal (column "b") (.text "it's"))
  groups := []
  having? := none
  keys := []
  limit? := none
  offset? := none

/-- A select of groups, whose condition asks the tested one. -/
def grouped : Outline where
  isDistinct := false
  items := [column "a", .aliased (.calling "COUNT" [.star]) (column "n")]
  from? := some (.expr (column "t"))
  joins := []
  where? := some (.oneOf (column "b") (.query (.nested (.select tested.select))))
  groups := [column "a"]
  having? := none
  keys := []
  limit? := some (.number "5")
  offset? := none

/-- The text of the sample. -/
def text : String :=
  "SELECT a, COUNT(*) AS n FROM t WHERE b IN (SELECT a FROM u WHERE b = 'it''s') GROUP BY a LIMIT 5"

theorem read_as_column : ∀ c ∈ ["a", "b", "n", "t", "u"], IsColumnName c ∧
    (Lexeme.ofWord c).namesColumn = true := by
  decide

theorem isColumnName {c : String} (hc : c ∈ ["a", "b", "n", "t", "u"]) : IsColumnName c :=
  (read_as_column c hc).1

variable {d : Dialect}

theorem covered_column {c : String} (hc : c ∈ ["a", "b", "n", "t", "u"]) :
    Covered d (.expr .operand (column c)) :=
  .column (.name (isColumnName hc).writes (read_as_column c hc).2)

theorem covered_source {c : String} (hc : c ∈ ["a", "b", "n", "t", "u"]) :
    Covered d (.table (.expr (column c))) :=
  have h := isColumnName hc
  .table (.sourceName h.writes h.namesSource.1) (.none _)

theorem covered_tested (hd : d ∈ Dialect.all) (hled : d.leadingLimit = false) :
    Covered d (.query (.select tested.select)) := by
  have hitem : Covered d (.item (column "a")) := .item ((covered_column (by decide)).above _ (by decide))
  have htest : Covered d (.expr .equality (.binary .equal (column "b") (.text "it's"))) :=
    ((Condition.IsLiteral.text "it's").equality (isColumnName (by decide)) hd).2
  have hselect : Covered d (.select tested) := by
    refine .select (List.cons_ne_nil _ _) (List.forall_mem_singleton.mpr hitem) (by simp [hled]) ?_
      nofun nofun ?_ nofun nofun nofun nofun nofun nofun nofun nofun
    · rintro q ⟨⟩
      exact covered_source (by decide)
    · rintro e ⟨⟩
      exact htest.above _ (by decide)
  exact .query (.chain hselect)

theorem covered_grouped (hd : d ∈ Dialect.all) (hled : d.leadingLimit = false) :
    Covered d (.query (.select grouped.select)) := by
  have hitem : Covered d (.item (column "a")) := .item ((covered_column (by decide)).above _ (by decide))
  have hcount : KeepsFunction d "COUNT" [.star] :=
    ⟨⟨by decide, by decide, by decide, by decide, by decide, .inr (by decide)⟩,
      fun _ => rfl⟩
  have hcall : Covered d (.expr .operand (.calling "COUNT" [.star])) :=
    .call hcount (List.forall_mem_singleton.mpr .argumentStar)
  have hlabelled : Covered d (.item (.aliased (.calling "COUNT" [.star]) (column "n"))) :=
    .itemAliased (hcall.above _ (by decide)) (isColumnName (by decide)).writes (by decide)
  have hchoice : Covered d
      (.expr .range (.oneOf (column "b") (.query (.nested (.select tested.select))))) :=
    .oneOfQuery ((covered_column (by decide)).above _ (by decide)) (covered_tested hd hled)
  have hselect : Covered d (.select grouped) := by
    refine .select (List.cons_ne_nil _ _)
      (List.forall_mem_cons.mpr ⟨hitem, List.forall_mem_singleton.mpr hlabelled⟩) (by simp [hled]) ?_
      nofun nofun ?_ ?_ ?_ nofun nofun ?_ ?_ nofun nofun
    · rintro q ⟨⟩
      exact covered_source (by decide)
    · rintro e ⟨⟩
      exact hchoice.above _ (by decide)
    · exact List.forall_mem_singleton.mpr ((covered_column (by decide)).above _ (by decide))
    · refine List.forall_mem_singleton.mpr ?_
      rw [column, Expr.lexemes_name (isColumnName (by decide)).writes]
      decide
    · rintro e ⟨⟩
      exact .rise (by decide) (.rise (by decide) (.number (by decide)))
    · rintro e ⟨⟩
      rfl
  exact .query (.chain hselect)

/-- The sample is read from its text. -/
theorem read : ∀ d ∈ [Dialect.generic, .mysql],
    Covered d (.query (.select grouped.select)) ∧ parseSelect d text = .ok grouped.select := by
  have hprint : ∀ d ∈ [Dialect.generic, .mysql], printSelect d grouped.select = text := by
    decide
  have hread {d : Dialect} (hd : d ∈ Dialect.all) (hled : d.leadingLimit = false)
      (htext : printSelect d grouped.select = text) :
      Covered d (.query (.select grouped.select)) ∧ parseSelect d text = .ok grouped.select :=
    ⟨covered_grouped hd hled, htext ▸ parseSelect_print hd (covered_grouped hd hled)⟩
  simp only [List.forall_mem_cons, List.not_mem_nil, false_implies, implies_true, and_true] at hprint ⊢
  exact ⟨hread Dialect.generic_mem rfl hprint.1, hread (dialectOf_described Dialect.mysql_described).2 rfl hprint.2⟩

theorem read_generic : Covered .generic (.query (.select grouped.select)) ∧
    parseSelect .generic text = .ok grouped.select :=
  read _ (List.mem_cons_self ..)

/-- The quotes around the name of a type are not printed, and what is left is no select. -/
theorem edit_quotedType :
    (replaceConditions "" "SELECT CAST(b AS \"My Type\") FROM t"
        [("b", .number (.int 1))]).result =
        .ok "SELECT CAST(b AS My Type) FROM t WHERE b = 1" ∧
      (parseSelect .generic "SELECT CAST(b AS My Type) FROM t WHERE b = 1").toBool = false := by
  decide +kernel

end Sample

/-! ## Reading the edited text -/

/-- A select with a condition is read back, up to what its condition is read as. -/
theorem parseSelect_filter (hd : d ∈ Dialect.all) (hs : Covered d (.query (.select s))) {e e' : Expr}
    (htext : SameText d e e') (he' : Covered d (.expr .disjunction e')) :
    parseSelect d (printSelect d (s.filter (some e))) = .ok (s.filter (some e')) := by
  rw [htext.printSelect_eq]
  exact parseSelect_print hd (hs.filter he')

theorem parseSelect_project (hs : Covered .generic (.query (.select s))) {columns : List String}
    (hne : columns ≠ []) (hcolumns : ∀ c ∈ columns, IsColumnName c) :
    Covered .generic (.query (.select (s.project (columnItems columns)))) ∧
      parseSelect .generic (printSelect .generic (s.project (columnItems columns))) =
        .ok (s.project (columnItems columns)) :=
  have hcovered := hs.project rfl (columnItems_ne_nil hne) (covered_columnItems hcolumns)
  ⟨hcovered, parseSelect_print Dialect.generic_mem hcovered⟩

/-- **Replaced columns are read back.** The text of the edited select is the select with exactly these
columns, in order, and everything else as it was; if the select is covered, this is what the text is
read as. -/
theorem replaceColumns_readBack (hread : parseSelect .generic sql = .ok s) {columns : List String}
    (hne : columns ≠ []) (hcolumns : ∀ c ∈ columns, IsColumnName c) :
    ∃ text, (replaceColumns "" sql columns).result = .ok text ∧
      text = printSelect .generic (s.project (columnItems columns)) ∧
      (Covered .generic (.query (.select s)) →
        parseSelect .generic text = .ok (s.project (columnItems columns))) :=
  ⟨_, replaceColumns_eq Dialect.generic_described hread hne hcolumns, rfl,
    fun hs => (parseSelect_project hs hne hcolumns).2⟩

/-- A column that is named like a type is read back. -/
theorem type_column_readBack :
    (∀ c ∈ ["b", "date"], IsColumnName c) ∧ ∃ text,
      (replaceColumns "" Sample.text ["b", "date"]).result = .ok text ∧
        parseSelect .generic text =
          .ok (Sample.grouped.select.project [.name (.plain "b"), .name (.plain "date")]) := by
  have hdate : IsColumnName "date" := by decide
  have hcolumns : ∀ c ∈ ["b", "date"], IsColumnName c :=
    List.forall_mem_cons.mpr ⟨Sample.isColumnName (by decide), List.forall_mem_singleton.mpr hdate⟩
  obtain ⟨hcovered, hsample⟩ := Sample.read_generic
  obtain ⟨text, hresult, -, hback⟩ :=
    replaceColumns_readBack hsample (List.cons_ne_nil _ _) hcolumns
  exact ⟨hcolumns, text, hresult, hback hcovered⟩

/-- A column that is named by a reserved word is not read back. -/
theorem reserved_column_not_readBack :
    (replaceColumns "" "SELECT * FROM t" ["select"]).result = .ok "SELECT select FROM t" ∧
      (parseSelect .generic "SELECT select FROM t").toBool = false := by
  decide +kernel

section

variable (hread : parseSelect .generic sql = .ok s) (hs : Covered .generic (.query (.select s)))
include hread hs

theorem replaceConditions_overwrites {entries entries' : List (String × Value)}
    (hne : entries ≠ []) (hentries : ∀ entry ∈ entries, IsEntry entry) (hne' : entries' ≠ [])
    (hentries' : ∀ entry ∈ entries', IsEntry entry) :
    ∃ text, (replaceConditions "" sql entries >>= fun t =>
        replaceConditions "" t entries').result = .ok text ∧
      (replaceConditions "" sql entries').result = .ok text := by
  obtain ⟨e, first, more, hbuild, -, hcondition⟩ := buildCondition_eq hne hentries
  obtain ⟨e', -, -, hbuild', -, -⟩ := buildCondition_eq hne' hentries'
  obtain ⟨htext, hcovered⟩ := hcondition _ Dialect.generic_mem
  have hedited := parseSelect_filter Dialect.generic_mem hs htext hcovered
  refine ⟨_, ?_, replaceConditions_eq Dialect.generic_described hread hne' hbuild'⟩
  rw [Outcome.result_bind (replaceConditions_eq Dialect.generic_described hread hne hbuild),
    replaceConditions_eq Dialect.generic_described hedited hne' hbuild', SelectOf.filter_filter]

theorem replaceColumns_overwrites {columns columns' : List String} (hne : columns ≠ [])
    (hcolumns : ∀ c ∈ columns, IsColumnName c) (hne' : columns' ≠ [])
    (hcolumns' : ∀ c ∈ columns', IsColumnName c) :
    ∃ text, (replaceColumns "" sql columns >>= fun t =>
        replaceColumns "" t columns').result = .ok text ∧
      (replaceColumns "" sql columns').result = .ok text := by
  have hedited := (parseSelect_project hs hne hcolumns).2
  refine ⟨_, ?_, replaceColumns_eq Dialect.generic_described hread hne' hcolumns'⟩
  rw [Outcome.result_bind (replaceColumns_eq Dialect.generic_described hread hne hcolumns),
    replaceColumns_eq Dialect.generic_described hedited hne' hcolumns', SelectOf.project_project]

theorem edits_commute {columns : List String} {entries : List (String × Value)}
    (hne : columns ≠ []) (hcolumns : ∀ c ∈ columns, IsColumnName c) (hne' : entries ≠ [])
    (hentries : ∀ entry ∈ entries, IsEntry entry) :
    ∃ text, (replaceColumns "" sql columns >>= fun t =>
        replaceConditions "" t entries).result = .ok text ∧
      (replaceConditions "" sql entries >>= fun t =>
        replaceColumns "" t columns).result = .ok text := by
  obtain ⟨e, first, more, hbuild, -, hcondition⟩ := buildCondition_eq hne' hentries
  obtain ⟨htext, hcovered⟩ := hcondition _ Dialect.generic_mem
  have hprojected := (parseSelect_project hs hne hcolumns).2
  have hfiltered := parseSelect_filter Dialect.generic_mem hs htext hcovered
  refine ⟨printSelect .generic ((s.project (columnItems columns)).filter (some e)), ?_, ?_⟩
  · rw [Outcome.result_bind (replaceColumns_eq Dialect.generic_described hread hne hcolumns)]
    exact replaceConditions_eq Dialect.generic_described hprojected hne' hbuild
  · -- The columns are put into the tree that was read back, whose condition has the same text.
    rw [Outcome.result_bind (replaceConditions_eq Dialect.generic_described hread hne' hbuild),
      replaceColumns_eq Dialect.generic_described hfiltered hne hcolumns, SelectOf.project_filter,
      ← htext.printSelect_eq]

end

/-- No condition of a text that is no select is replaced. -/
theorem replaceConditions_of_unread (hsql : sql ≠ "") (hnone : (parseSelect .generic sql).toBool = false)
    {entries : List (String × Value)} (hne : entries ≠ []) :
    (replaceConditions "" sql entries).isOk = false := by
  have hunread : ∃ e, (readSelect "" sql).result = .error e := by
    rw [readSelect, (dialectOf_described Dialect.generic_described).1, Outcome.ofExcept,
      Outcome.bind_ok rfl]
    cases h : parseSelect .generic sql with
    | ok s => simp [h, Except.toBool] at hnone
    | error e => cases e <;> exact ⟨_, rfl⟩
  have hempty : (sql.isEmpty || entries.isEmpty) = false := by simp [hsql, hne]
  obtain ⟨e, he⟩ := hunread
  rw [Outcome.isOk_eq_false, replaceConditions, hempty, if_neg (by decide), Outcome.bind_error he]
  exact ⟨e, rfl⟩

end QueryBook
