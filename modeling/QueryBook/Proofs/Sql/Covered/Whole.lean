import Mathlib.Data.List.Flatten
import QueryBook.Proofs.Sql.Covered.Queries

/-!
# Reading covered trees

Every covered tree is read as it is printed (`Covered.reads`). The induction is on how the tree is
covered. The grammar has to be as deep as the tree, for which four levels for each lexeme suffice: a
reader hands the same lexemes on to the next level at most once.
-/

namespace QueryBook.Sql

open QueryBook.Sql.Parser
open Lexeme (kw)

variable {d : Dialect} {tokens : String → Option (List Token)} {q : Query} {node : Node} {e : Expr}

/-- The depth of the grammar that reads a tree. -/
def Node.depth (d : Dialect) (node : Node) : ℕ :=
  4 * (node.lexemes d).length + node.rank + 4

/-- A tree is read by a grammar of its own depth, its parts by one that is less deep. -/
theorem Node.ReadsFrom.above (i : ℕ) (hi : i ≤ 4)
    (h : ∀ m, node.depth d ≤ m + i → node.Reads d tokens (.ofDepth d tokens (m + i))) :
    node.ReadsFrom d tokens (node.depth d) := by
  intro n hn
  obtain ⟨m, rfl⟩ := Nat.exists_eq_add_of_le' (show i ≤ n by simp only [Node.depth] at hn; omega)
  exact h m hn

/-- A part that is shorter than a tree is read by a grammar that is less deep. -/
theorem Node.ReadsFrom.under {part : Node} {m i : ℕ} (h : part.ReadsFrom d tokens (part.depth d))
    (hm : node.depth d ≤ m + i) (hlen : (part.lexemes d).length < (node.lexemes d).length)
    (hi : i ≤ 3 := by decide) : part.Reads d tokens (.ofDepth d tokens m) := by
  have hrank : part.rank ≤ 1 := by
    cases part <;> simp [Node.rank]
  refine h m ?_
  simp only [Node.depth] at hm ⊢
  omega

/-! ## Lengths -/

theorem length_le_flatMap {α β : Type} {a : α} {as : List α} (f : α → List β) (h : a ∈ as) :
    (f a).length ≤ (as.flatMap f).length := by
  simpa using ((List.singleton_sublist.mpr h).flatMap f).length_le

theorem Lexeme.length_le_commas {ls : List Lexeme} {lss : List (List Lexeme)} (h : ls ∈ lss) :
    ls.length ≤ (Lexeme.commas lss).length := by
  induction lss with
  | nil => cases h
  | cons first more ih =>
    cases more with
    | nil => simp [Lexeme.commas, List.mem_singleton.mp h]
    | cons second more =>
      simp only [Lexeme.commas, List.length_append, List.length_cons] at ih ⊢
      rcases List.mem_cons.mp h with rfl | h
      · omega
      · have := ih h
        omega

/-- An expression of a list is no longer than the list. -/
theorem Expr.length_le_commas {es : List Expr} (h : e ∈ es) :
    (e.lexemes d).length ≤ (Lexeme.commas (es.map (Expr.lexemes d))).length :=
  Lexeme.length_le_commas (List.mem_map_of_mem h)

/-! ## Parts of a select -/

theorem Outline.Parts.imp {P Q R : Node → Prop} {o : Outline} (h : o.Parts P) (h' : o.Parts Q)
    (himp : ∀ node, P node → Q node → R node) : o.Parts R where
  items e he := himp _ (h.items e he) (h'.items e he)
  tables q hq := himp _ (h.tables q hq) (h'.tables q hq)
  joins j hj := himp _ (h.joins j hj) (h'.joins j hj)
  condition e he := himp _ (h.condition e he) (h'.condition e he)
  groups e he := himp _ (h.groups e he) (h'.groups e he)
  having e he := himp _ (h.having e he) (h'.having e he)
  keys e he := himp _ (h.keys e he) (h'.keys e he)
  limit e he := himp _ (h.limit e he) (h'.limit e he)
  offset e he := himp _ (h.offset e he) (h'.offset e he)

theorem Outline.Parts.map {P Q : Node → Prop} {o : Outline} (h : o.Parts P)
    (himp : ∀ node, P node → Q node) : o.Parts Q :=
  h.imp h fun node hnode _ => himp node hnode

theorem length_clauseLexemes {ws : List (String × Option Expr)} {w : String}
    (h : (w, some e) ∈ ws) : (e.lexemes d).length < (clauseLexemes d ws).length :=
  Nat.lt_of_succ_le (length_le_flatMap (fun w : String × Option Expr => Lexeme.behind d w.1 w.2) h)

/-- A limit before the projected expressions is no longer than what stands there. -/
theorem Outline.length_topLexemes {o : Outline} (hled : d.leadingLimit = true)
    (he : o.limit? = some e) : (e.lexemes d).length ≤ (o.topLexemes d).length := by
  rw [Outline.topLexemes, if_pos hled, he]
  simp only [Option.map_some, Outline.clause, topParts]
  split <;> simp [Expr.lexemes]
  omega

/-- The parts of a select are shorter than it. -/
theorem Outline.length_parts (d : Dialect) (o : Outline) : o.Parts fun node =>
    (node.lexemes d).length + node.rank ≤ (Layout.lexemes (o.bodyParts d)).length := by
  have hbody := congrArg List.length (Outline.lexemes_body (d := d) (o := o))
  simp only [List.length_append, Outline.behindLexemes] at hbody
  have hending (w : String) {e : Expr} (h : (w, some e) ∈ o.endings d) :
      (e.lexemes d).length < (Layout.lexemes (o.bodyParts d)).length := by
    have := length_clauseLexemes (d := d) h
    omega
  have hlisted (w : String) {es : List Expr} (h : (w, Outline.listed? es) ∈ o.endings d) {e : Expr}
      (he : e ∈ es) : (e.lexemes d).length < (Layout.lexemes (o.bodyParts d)).length := by
    cases es with
    | nil => cases he
    | cons x es =>
      have hlist := hending w h
      rw [Expr.lexemes_listed] at hlist
      exact (Expr.length_le_commas he).trans_lt hlist
  constructor <;> simp only [Node.lexemes, Node.rank, Nat.add_zero]
  case items =>
    intro e he
    have := Expr.length_le_commas (d := d) he
    omega
  case tables =>
    intro q hq
    have hsource : (o.sourceLexemes d).length = (q.lexemes d).length + 1 := by
      rw [Outline.sourceLexemes, Option.mem_def.mp hq]
      rfl
    omega
  case joins =>
    intro j hj
    have hjoin := length_le_flatMap (fun j => Layout.lexemes (joinsParts d [j])) hj
    rw [← Outline.lexemes_joins] at hjoin
    omega
  case condition => exact fun e he => (hending "WHERE" (by simp [Outline.endings, Option.mem_def.mp he])).le
  case groups => exact fun e he => (hlisted "GROUP BY" (by simp [Outline.endings]) he).le
  case having => exact fun e he => (hending "HAVING" (by simp [Outline.endings, Option.mem_def.mp he])).le
  case keys => exact fun e he => hlisted "ORDER BY" (by simp [Outline.endings]) he
  case limit =>
    intro e he
    cases hled : d.leadingLimit with
    | false => exact (hending "LIMIT" (by simp [Outline.endings, hled, Option.mem_def.mp he])).le
    | true =>
      have := Outline.length_topLexemes hled he
      omega
  case offset => exact fun e he => (hending "OFFSET" (by simp [Outline.endings, Option.mem_def.mp he])).le

/-! ## The whole tree -/

theorem withEnd_withEnd (q : Query) : withEnd (withEnd q) = withEnd q := by
  cases q with
  | combined words comments left right =>
    by_cases hend : hasEnd (splitEnd right).1 = true <;> simp [withEnd, hend]
  | _ => rfl

theorem withEnd_withNamed {w : With Expr Query} {q' : Query} (h : withNamed w q = some q') :
    withEnd q' = q' := by
  obtain ⟨s, rfl⟩ | ⟨q₀, rfl⟩ := withNamed_cases h <;> rfl

/-- The order and the limits of a covered query are those of the whole. -/
theorem Covered.withEnd_eq (h : Covered d (.query q)) : withEnd q = q := by
  cases h with
  | query hq => exact withEnd_withEnd _
  | withTables hne htables hq hwith => exact withEnd_withNamed hwith

/-- An expression of a list is shorter than what holds the list and more. -/
theorem Expr.length_lt_of_mem {es : List Expr} {k : ℕ} (h : e ∈ es)
    (hk : (Lexeme.commas (es.map (Expr.lexemes d))).length < k) : (e.lexemes d).length < k :=
  (Expr.length_le_commas h).trans_lt hk

theorem Labels.length_le {q' : Query} (h : Labels q q') :
    (q.lexemes d).length ≤ (q'.lexemes d).length := by
  obtain ⟨ms, -, hlexemes, -⟩ := Query.alias_reads (d := d) h
  rw [hlexemes, List.length_append]
  exact Nat.le_add_right _ _

/-- The operands of an operator are shorter than both of them with it. -/
theorem Expr.Shape.length_binary {op : BinaryOp} {left right : Expr} (hleft : left.Shape d)
    (hright : right.Shape d) (hopen : op.encloses left = false ∧ op.encloses right = false) :
    (left.lexemes d).length < ((Expr.binary op left right).lexemes d).length ∧
      (right.lexemes d).length < ((Expr.binary op left right).lexemes d).length := by
  have hl := List.length_pos_iff.mpr hleft.lexemes_ne_nil
  have hr := List.length_pos_iff.mpr hright.lexemes_ne_nil
  rw [Expr.lexemes_binary d hopen.1 hopen.2, List.length_append, List.length_append]
  omega

theorem Grammar.dialect_ofDepth (m : ℕ) : (Grammar.ofDepth d tokens m).dialect = d := by
  cases m <;> rfl

/-- A covered tree is read as it is printed, by a grammar that is deep enough. -/
theorem Covered.readsFrom (hd : d ∈ Dialect.all) (h : Covered d node) :
    node.ReadsFrom d tokens (node.depth d) := by
  induction h with
  | name hn hl => exact fun _ _ => .path_name hn hl
  | field he hn hl ih =>
    refine .above 0 (by decide) fun m hm =>
      .path_field (ih.under hm ?_) (he.shape hd).1.bare hn hl
    simp [Node.lexemes, Expr.lexemes_field]
  | sourceName hn hl => exact fun _ _ => .source_name hn hl
  | sourceField he hn hl ih =>
    refine .above 0 (by decide) fun m hm => .source_field (ih.under hm ?_) hn hl
    simp [Node.lexemes, Expr.lexemes_field]
  | column he ih => exact fun n hn => .column (ih n hn) (he.shape hd)
  | typeName hn hl hlevel => exact fun _ _ => .typeName hn hl hlevel
  | bound => exact fun _ _ => .bound
  | anonymous => exact fun _ _ => .anonymous
  | number => exact fun _ _ => .number _
  | text => exact fun _ _ => .text _
  | null => exact fun _ _ => .null
  | truth hc hdialect => exact fun _ _ => .truth hc hdialect
  | today => exact fun _ _ => .today
  | negative he ih =>
    refine .above 1 (by decide) fun m hm => .negative (ih.under hm ?_)
    simp [Node.lexemes, Expr.lexemes_negative]
  | group he hq ih =>
    refine .above 1 (by decide) fun m hm => .group (ih.under hm ?_) (he.shape hd).1 hq
    simp only [Node.lexemes, Expr.lexemes_group, List.length_cons, List.length_append]
    omega
  | tuple hes hq ih =>
    refine .above 1 (by decide) fun m hm => .tuple
      (fun x hx => (ih x hx).under hm (Expr.length_lt_of_mem hx ?_))
      (fun x hx => ((hes x hx).shape hd).1) hq
    simp only [Node.lexemes, Expr.lexemes_tuple, List.length_cons, List.length_append]
    omega
  | subquery hq ih =>
    refine .above 1 (by decide) fun m hm => .subquery (ih.under hm ?_) (hq.shape hd)
    simp only [Node.lexemes, Expr.lexemes_query, Query.lexemes_nested, List.length_cons,
      List.length_append]
    omega
  | call hf hes ih =>
    refine .above 1 (by decide) fun m hm => .call hf (fun x hx => (hes x hx).shape hd)
      (fun x hx => (hes x hx).isClosed)
      fun x hx => (ih x hx).under (i := 0) hm (Expr.length_lt_of_mem hx ?_)
    simp only [Node.lexemes, Expr.lexemes_call hf.name, List.length_cons, List.length_append]
    omega
  | callDistinct hne hf hes ih =>
    refine .above 1 (by decide) fun m hm => .callDistinct hne hf
      (fun x hx => ((hes x hx).shape hd).1)
      fun x hx => (ih x hx).under hm (Expr.length_lt_of_mem hx ?_)
    simp [Node.lexemes, Expr.lexemes_call hf.name, Lexeme.commas, Expr.lexemes_phrase,
      Expr.lexemes_listed]
    omega
  | windowed hf hes hgroups hkeys ih ihgroups ihkeys =>
    refine .above 1 (by decide) fun m hm => .windowed hf (fun x hx => (hes x hx).shape hd)
      (fun x hx => (hes x hx).isClosed) (fun x hx => ((hgroups x hx).shape hd).1)
      (fun x hx => (hkeys x hx).shape hd)
      (fun x hx => (ih x hx).under (i := 0) hm (Expr.length_lt_of_mem hx ?_))
      (fun x hx => (ihgroups x hx).under hm (Expr.length_lt_of_mem hx ?_))
      (fun x hx => (ihkeys x hx).under (i := 0) hm (Expr.length_lt_of_mem hx ?_))
    · simp [Node.lexemes, Expr.lexemes_over hf.name]
      omega
    · simp [Node.lexemes, Expr.lexemes_over hf.name, listLexemes, List.ne_nil_of_mem hx]
      omega
    · simp [Node.lexemes, Expr.lexemes_over hf.name, listLexemes, List.ne_nil_of_mem hx]
      omega
  | cast he hs ht hhead hplain hprinted hsizes ih =>
    refine .above 2 (by decide) fun m hm => .cast (ih.under (i := 1) hm ?_) hhead hplain hprinted
      (fun size hsize => Lexeme.isTame_number (hsizes size hsize)) ht
    simp [Node.lexemes, Expr.lexemes_cast]
    omega
  | «exists» hq ih =>
    refine .above 1 (by decide) fun m hm => .exists (ih.under hm ?_) (hq.shape hd)
    simp [Node.lexemes, Expr.lexemes_exists]
    omega
  | @case subject? otherwise? branches hsubject hne htests hresults hotherwise ihsubject ihtests ihresults ihotherwise =>
    have hbranch {b : Expr × Expr} (hb : b ∈ branches) := length_le_flatMap (Expr.branchLexemes d) hb
    refine .above 1 (by decide) fun m hm => .case hne
      (fun e he => ⟨((hsubject e he).shape hd).1, (ihsubject e he).under hm ?_⟩)
      (fun b hb => ⟨((htests b hb).shape hd).1, (ihtests b hb).under hm ?_⟩)
      (fun b hb => ⟨((hresults b hb).shape hd).1, (ihresults b hb).under hm ?_⟩)
      (fun e he => ⟨((hotherwise e he).shape hd).1, (ihotherwise e he).under hm ?_⟩) <;>
      simp only [Node.lexemes, Expr.lexemes_case, List.length_cons, List.length_append]
    · rw [Option.mem_def.mp he, Option.elim_some]
      omega
    · have := hbranch hb
      simp only [Expr.branchLexemes, List.length_cons, List.length_append] at this
      omega
    · have := hbranch hb
      simp only [Expr.branchLexemes, List.length_cons, List.length_append] at this
      omega
    · rw [Option.mem_def.mp he, Expr.elseLexemes]
      simp only [List.length_cons]
      omega
  | rise hlevel he ih => exact fun n hn => .rise (ih n hn) hlevel
  | binary hl hsign hop hleft hright hopen ihleft ihright =>
    have hlen := Expr.Shape.length_binary (hleft.shape hd).1 (hright.shape hd).1 hopen
    exact .above 0 (by decide) fun m hm => .binary hl hsign (by rwa [Grammar.dialect_ofDepth]) hopen
      (hright.shape hd).1 (ihleft.under hm hlen.1) (ihright.under hm hlen.2)
  | not he ih =>
    refine .above 1 (by decide) fun m hm => .not (ih.under hm ?_)
    simp [Node.lexemes, Expr.lexemes_not]
  | between he hlow hhigh hhead ih ihlow ihhigh =>
    refine .above 0 (by decide) fun m hm => .between (ih.under hm ?_) (hlow.shape hd).1
      (hhigh.shape hd).1 (ihlow.under hm ?_) (ihhigh.under hm ?_) hhead <;>
    · simp only [Node.lexemes, Expr.lexemes_between, List.length_cons, List.length_append]
      omega
  | pattern hop he hpattern hopen ih ihpattern =>
    have hlen := Expr.Shape.length_binary (he.shape hd).1 (hpattern.shape hd).1 hopen
    exact .above 0 (by decide) fun m hm => .pattern hop hopen (ih.under hm hlen.1)
      (hpattern.shape hd).1 (ihpattern.under hm hlen.2)
  | isConstant he hc hopen ih =>
    have hlen := Expr.Shape.length_binary (he.shape hd).1 (.constant hd hc) ⟨hopen, rfl⟩
    exact .above 0 (by decide) fun m hm => .isConstant hc hopen (ih.under hm hlen.1)
  | isDistinct he hright hopen ih ihright =>
    have hlen := Expr.Shape.length_binary (he.shape hd).1 (hright.shape hd).1 hopen
    exact .above 0 (by decide) fun m hm => .isDistinct hopen (ih.under hm hlen.1) (hright.shape hd).1
      (ihright.under hm hlen.2)
  | oneOf he hne hes hq ih ihes =>
    refine .above 1 (by decide) fun m hm => .oneOf hne hq (ih.under (i := 0) hm ?_)
      (fun x hx => ((hes x hx).shape hd).1) (fun x hx => (hes x hx).isClosed)
      fun x hx => (ihes x hx).under hm (Expr.length_lt_of_mem hx ?_)
    all_goals
      simp only [Node.lexemes, Expr.lexemes_oneOf, Expr.lexemes_tuple, List.length_cons,
        List.length_append]
      omega
  | oneOfQuery he hq ih ihq =>
    refine .above 1 (by decide) fun m hm => .oneOfQuery (ih.under (i := 0) hm ?_) (hq.shape hd)
      (ihq.under hm ?_)
    all_goals
      simp only [Node.lexemes, Expr.lexemes_oneOf, Expr.lexemes_query, Query.lexemes_nested,
        List.length_cons, List.length_append]
      omega
  | argument he ih =>
    refine .above 1 (by decide) fun m hm => .argument (ih m ?_) (he.shape hd).1 he.isClosed
    simp only [Node.depth, Node.lexemes, Node.rank] at hm ⊢
    omega
  | argumentStar => exact .above 1 (by decide) fun m _ => .argumentStar
  | item he ih => exact fun n hn => .item (ih n hn)
  | itemAliased he hn hl ih =>
    refine .above 0 (by decide) fun m hm => .itemAliased hn hl (ih.under hm ?_) (he.shape hd).1
    simp [Node.lexemes, Expr.lexemes_aliased]
  | itemStar => exact fun _ _ => .itemStar
  | itemStarOf he ih =>
    refine .above 0 (by decide) fun m hm => .itemStarOf (ih.under hm ?_) (he.shape hd)
    simp [Node.lexemes, Expr.lexemes_field]
  | key direction nullsFirst he ih =>
    refine .above 1 (by decide) fun m hm => .key direction nullsFirst (ih m ?_)
    simp only [Node.depth, Node.lexemes, Node.rank, Expr.lexemes_sorted, List.length_append] at hm ⊢
    omega
  | table he hq ih =>
    have hlen := hq.length_le (d := d)
    refine .above 1 (by decide) fun m hm => .table (ih (m + 1) ?_) (he.shape hd) hq
    simp only [Node.depth, Node.lexemes, Node.rank, Query.lexemes_expr] at hm hlen ⊢
    omega
  | derived hq hq' ih =>
    have hlen := hq'.length_le (d := d)
    refine .above 2 (by decide) fun m hm =>
      .derived (ih.under hm ?_) (hq.shape hd) hq.withEnd_eq hq'
    simp only [Node.lexemes, Query.lexemes_nested, List.length_cons, List.length_append] at hlen ⊢
    omega
  | joinComma hq ih =>
    refine .above 0 (by decide) fun m hm => .joinComma (ih.under hm ?_)
    simp [Node.lexemes, joinsParts_comma, Query.lexemes]
  | joinBare hws hne hq hnested ih =>
    refine .above 0 (by decide) fun m hm => .joinBare hws hne hnested (ih.under hm ?_)
    simp [Node.lexemes, joinsParts_bare d hne (joinPhrases_ne hws), lexemes_joinWords hws, Query.lexemes]
    omega
  | joinOn hws hq he ih ihe =>
    refine .above 1 (by decide) fun m hm =>
      .joinOn hws (ih.under (i := 0) hm ?_) (he.shape hd).1 (ihe.under hm ?_) <;>
    · simp [Node.lexemes, joinsParts_on d (joinPhrases_ne hws), lexemes_joinWords hws, Query.lexemes,
        Expr.lexemes]
      omega
  | @joinUsing ws q ns hws hq hne hns ih ihns =>
    refine .above 1 (by decide) fun m hm => .joinUsing hws hne (ih.under (i := 0) hm ?_)
      (fun n hn => (hns n hn).shape hd)
      fun n hn => (ihns n hn).under hm (Expr.length_lt_of_mem (List.mem_map_of_mem hn) ?_)
    all_goals
      simp [Node.lexemes, joinsParts_using d (joinPhrases_ne hws) _
        (show ns.map Expr.name ≠ [] by simpa using hne), lexemes_joinWords hws, Query.lexemes]
      omega
  | @select o hne hitems htop hfrom hjoins hsource hwhere hgroups hgrouping hhaving hkeys hlimit hcount
      hoffset hends ihitems ihfrom ihjoins ihwhere ihgroups ihhaving ihkeys ihlimit ihoffset =>
    have hselect : Covered d (.select o) := .select hne hitems htop hfrom hjoins hsource hwhere hgroups
      hgrouping hhaving hkeys hlimit hcount hoffset hends
    have hcovered : o.Parts (Covered d) :=
      ⟨hitems, hfrom, hjoins, hwhere, hgroups, hhaving, hkeys, hlimit, hoffset⟩
    have hreads : o.Parts fun node => node.ReadsFrom d tokens (node.depth d) :=
      ⟨ihitems, ihfrom, ihjoins, ihwhere, ihgroups, ihhaving, ihkeys, ihlimit, ihoffset⟩
    refine .above 1 (by decide) fun m hm => .select
      (hcovered.map fun node hnode => hnode.shape hd)
      (hreads.imp (Outline.length_parts d o) fun node hread hlen n hn => hread n ?_) hends hne
      (hselect.shape hd) htop hsource hgrouping hcount
    have hwhole : (Node.select o).depth d = 4 * (Layout.lexemes (o.bodyParts d)).length + 1 + 4 := rfl
    rw [Node.depth]
    omega
  | chain ho ih =>
    refine .above 0 (by decide) fun m hm => .chain (ih.under hm ?_) (ho.shape hd)
    simp [Node.lexemes, (show Outline.Shape d _ from ho.shape hd).lexemes_select]
  | combined hws hleft ho hexcept hled ihleft iho =>
    refine .above 1 (by decide) fun m hm => .combined hws hexcept (hleft.shape hd) (ho.shape hd)
      (ihleft.under (i := 0) hm ?_) (iho.under hm ?_)
    all_goals
      simp only [Node.lexemes, Query.lexemes_combined d hws,
        (show Outline.Shape d _ from ho.shape hd).lexemes_select, List.length_cons,
        List.length_append]
      omega
  | query hq ih =>
    intro n hn
    refine .query (ih n (le_of_eq_of_le ?_ hn)) (hq.shape hd)
    simp only [Node.depth, Node.lexemes, Node.rank]
    rw [(show Query.ChainShape d _ from hq.shape hd).lexemes_withEnd]
  | withTables hne htables hq hwith ihtables ihq =>
    have hchain : Query.ChainShape d _ := hq.shape hd
    have hlexemes := Query.lexemes_withNamed (fun t ht => ((htables t ht).shape hd).2.1) hchain hwith
    rw [hchain.lexemes_withEnd] at hlexemes
    refine .above 2 (by decide) fun m hm => .withTables hne (fun t ht => (htables t ht).shape hd)
      (fun t ht => (ihtables t ht).under (i := 0) hm ?_) hchain (ihq.under hm ?_) hwith
    · have := Lexeme.length_le_commas
        (List.mem_map_of_mem (f := fun t => Layout.lexemes (CommonTable.parts d t)) ht)
      simp only [Node.lexemes, hlexemes, List.length_cons, List.length_append]
      omega
    · simp only [Node.lexemes, hlexemes, List.length_cons, List.length_append]
      omega
  | named hn hl hq ih =>
    refine .above 2 (by decide) fun m hm => .named hn hl (hq.shape hd) (ih.under hm ?_)
    simp [Node.lexemes, CommonTable.lexemes_parts]
    omega
  | namedColumns hn hl hf hne hns hq ih =>
    refine .above 2 (by decide) fun m hm =>
      .namedColumns hn hl hf hne hns (hq.shape hd) (ih.under hm ?_)
    simp [Node.lexemes, CommonTable.lexemes_parts]
    omega

end QueryBook.Sql
