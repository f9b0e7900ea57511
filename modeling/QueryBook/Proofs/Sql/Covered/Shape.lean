import QueryBook.Proofs.Sql.Covered.Outline
import QueryBook.Proofs.Sql.Layout.Written

/-!
# The shape of printed statements

What the readers ask of a tree and of its lexemes, apart from reading them: an expression has no
comments and begins with a lexeme that begins no query and no list, a query begins with its first
word, and the parts of all of them are read as their lexemes. These facts hold of every covered tree
(`Covered.shape`), by induction on how it is covered, with a lemma for each form of printed parts.
-/

namespace QueryBook.Sql

open Text Lexer Layout
open Lexeme (kw)

variable {d : Dialect} {e : Expr} {n : Name} {l : Lexeme} {ps qs : List Part}

/-! ## First lexemes -/

namespace Lexeme

theorem beginsExpr_keyword {kind : String} (s : String) {p : String → Bool}
    (hnot : ∀ kind ∈ foreignWords, p kind = false)
    (h : p kind = true) : (keyword kind s).beginsExpr = true := by
  have hmem : kind ∉ foreignWords := fun hmem => by
    simp [hnot kind hmem] at h
  simpa [beginsExpr, foreignWords] using hmem

/-- The name of a column begins an expression. -/
theorem beginsExpr_of_namesColumn (h : l.namesColumn = true) : l.beginsExpr = true := by
  cases l with
  | keyword kind s =>
    refine beginsExpr_keyword s (p := fun kind => Keyword.isName kind && kind != "ALL") (by decide) ?_
    simp_all [namesColumn, namesSource, Parser.isWordOf]
  | symbol => simp [namesColumn, namesSource, Parser.isWordOf] at h
  | _ => rfl

theorem beginsExpr_of_namesType (h : l.namesType = true) : l.beginsExpr = true := by
  cases l with
  | keyword kind s =>
    refine beginsExpr_keyword s (p := Keyword.isType) (by decide) ?_
    simp_all [namesType, beginsType]
  | symbol => simp [namesType, namesSource, Parser.isWordOf] at h
  | _ => rfl

theorem beginsExpr_of_namesCall (h : l.namesCall = true) : l.beginsExpr = true := by
  cases l with
  | keyword kind s =>
    refine beginsExpr_keyword s
      (p := fun kind => Keyword.isFunction kind && !(["ALL", "ANY", "EXISTS", "SOME"].contains kind))
      (by decide) ?_
    simp_all [namesCall]
  | symbol => simp [namesCall] at h
  | _ => rfl

end Lexeme

theorem ne_of_isWordPart {c p : Char} (hc : isWordPart c = true) (hp : p ∈ punctuation) : c ≠ p :=
  Lexer.ne_of_isWordPart hc hp

/-- A word that begins an expression. -/
theorem Begins.word {s : String} (hs : isWord s = true) (hl : (Lexeme.ofWord s).beginsExpr = true) :
    Begins d (.word s) := by
  obtain ⟨c, cs, hw, -, hc⟩ := isWord_head hs
  exact ⟨rfl, ⟨_, _, rfl, hl⟩, .inr ⟨c, cs, hw, ne_of_isWordPart hc (by decide),
    ne_of_isWordPart hc (by decide)⟩⟩

/-- Words of the grammar that an expression begins with. -/
theorem Begins.grammarWord {s : String}
    (hs : s ∈ ["NOT", "CASE", "EXISTS", "CURRENT_DATE", "NULL", "TRUE", "FALSE", "CAST",
      "TRY_CAST"]) : Begins d (.word s) := by
  have hfacts : ∀ s ∈ ["NOT", "CASE", "EXISTS", "CURRENT_DATE", "NULL", "TRUE", "FALSE", "CAST",
      "TRY_CAST"], isWord s = true ∧ (Lexeme.ofWord s).beginsExpr = true := by
    decide
  exact .word (hfacts s hs).1 (hfacts s hs).2

theorem Begins.paren : Begins d (.symbol "(") :=
  ⟨rfl, ⟨_, _, rfl, rfl⟩, .inr ⟨_, _, rfl, by decide, by decide⟩⟩

theorem Begins.minus : Begins d (.symbol "-") :=
  ⟨rfl, ⟨_, _, rfl, rfl⟩, .inl rfl⟩

/-- A name that begins an expression, as a phrase. -/
theorem Phrase.name (hd : d ∈ Dialect.all) (hn : n.Writes l) (hl : l.beginsExpr = true) :
    Phrase d (n.parts d) := by
  have hwritten := (hn.dotted hd).written
  cases hn with
  | @plain s hs ht =>
    rw [Name.parts_plain hs] at hwritten ⊢
    refine ⟨hwritten, ⟨_, [], rfl, .word hs hl⟩, ?_⟩
    rcases Lexeme.ofWord_cases s with h | ⟨kind, h⟩ <;> simp [h]
  | @quoted s ht =>
    have hquote : ∀ d ∈ Dialect.all, d.nameQuotes.1 ≠ '-' ∧ d.nameQuotes.1 ≠ '>' := by decide
    exact ⟨hwritten, ⟨_, [], rfl, rfl, ⟨_, _, rfl, rfl⟩, .inr ⟨_, _, rfl, hquote d hd⟩⟩, by simp [Name.parts, Part.lexemes]⟩

/-! ## Forms of expressions -/

/-- The last lexeme of parts between parentheses. -/
theorem getLast?_between (p : Part) (ps : List Part) :
    (lexemes (between p ps)).getLast? = some (.symbol ")") := by
  rw [lexemes_between, ← List.append_assoc, List.getLast?_concat]

theorem Written.cons {p : Part} (hp : Divides d p) (h : Written d ps) : Written d (p :: ps) :=
  (Segment.cons hp h).written

theorem Written.consAll (h : ∀ p ∈ ps, Divides d p) (h' : Written d qs) : Written d (ps ++ qs) := by
  induction ps with
  | nil => exact h'
  | cons p ps ih =>
    obtain ⟨hp, hps⟩ := List.forall_mem_cons.mp h
    exact .cons hp (ih hps)

theorem Segment.of_all (h : ∀ p ∈ ps, Divides d p) : Segment d ps := by
  cases ps with
  | nil => exact .nil
  | cons p ps =>
    obtain ⟨hp, hps⟩ := List.forall_mem_cons.mp h
    exact .cons hp (by simpa using Written.consAll hps .nil)

section

variable (hd : d ∈ Dialect.all)
include hd

theorem Written.word {s : String} (hs : isWord s = true) (ht : (Lexeme.ofWord s).isTame = true) :
    Written d [.word s] :=
  .one (lexemes_word s) (.inl rfl) ⟨Lexeme.isPrinted_ofWord s, ht⟩
    fun _ hrest => laid_word hd hs (pauses_of_stops hrest)

/-- A word of the grammar that an expression begins with, before other parts. -/
theorem Phrase.grammarWord {s : String}
    (hs : s ∈ ["NOT", "CASE", "EXISTS", "CURRENT_DATE", "NULL", "TRUE", "FALSE", "CAST",
      "TRY_CAST"])
    (h : Written d ps) (hends : (lexemes ps).getLast? ≠ some (.symbol ",")) :
    Phrase d (.word s :: ps) where
  written := by
    have hword : ∀ s ∈ ["NOT", "CASE", "EXISTS", "CURRENT_DATE", "NULL", "TRUE", "FALSE", "CAST",
        "TRY_CAST"], s ∈ Lexeme.grammarWords.erase "WITH" ∨
          s ∈ ["CAST", "TRY_CAST", "TOP", "NULLS", "LAST"] := by decide
    exact .cons ((hword s hs).elim (.word hd) (.plainWord hd)) h
  begins := ⟨_, _, rfl, .grammarWord hs⟩
  ends := by
    rw [lexemes_cons, List.getLast?_append]
    cases hlast : (lexemes ps).getLast? with
    | none => rcases Lexeme.ofWord_cases s with h | ⟨kind, h⟩ <;> simp [h]
    | some l => simpa [hlast] using hends

/-- Parts between parentheses. -/
theorem Phrase.between (h : Written d ps) : Phrase d (Layout.between (.symbol "(") ps) where
  written := (Segment.between hd h (.inl rfl)).written
  begins := ⟨_, _, rfl, .paren⟩
  ends := by
    rw [getLast?_between]
    simp

/-- A word that names a function, and the arguments behind it. -/
theorem Phrase.call {f : String} (hf : isWord f = true) (ht : (Lexeme.ofWord f).isTame = true)
    (hcall : (Lexeme.ofWord f).namesCall = true) (h : Written d ps) :
    Phrase d (.word f :: Layout.between (.joined "(") ps) where
  written := by
    exact (Written.word hd hf ht).append_segment (.between hd h (.inr rfl))
  begins := ⟨_, _, rfl, .word hf (Lexeme.beginsExpr_of_namesCall hcall)⟩
  ends := by
    rw [lexemes_cons, List.getLast?_append, getLast?_between]
    simp

/-- A word of the grammar with arguments directly behind it. -/
theorem Phrase.callWord {s : String} (hs : s ∈ ["EXISTS", "CAST", "TRY_CAST"])
    (h : Written d ps) : Phrase d (.word s :: Layout.between (.joined "(") ps) :=
  .grammarWord hd (by revert hs; revert s; decide) (Segment.between hd h (.inr rfl)).written
    (by rw [getLast?_between]; simp)

/-- A member behind a point. -/
theorem Phrase.field (h : Phrase d ps) (hps : Dotted d ps) (h' : Written d qs)
    (hends : (lexemes qs).getLast? ≠ some (.symbol ",")) (hqs : lexemes qs ≠ []) :
    Phrase d (ps ++ .joined "." :: tight qs) where
  written := (hps.field hd h' h.ne_nil).1
  begins := by
    obtain ⟨p, ps, rfl, hp⟩ := h.begins
    exact ⟨_, _, rfl, hp⟩
  ends := by
    rw [lexemes_append, lexemes_cons, lexemes_tight, ← List.append_assoc,
      List.getLast?_append_of_ne_nil _ hqs]
    exact hends

/-- A minus sign before an expression, with a space between two of them. -/
theorem Phrase.negated (h : Phrase d ps) : Phrase d (negated ps) := by
  obtain ⟨p, ps, rfl, hp⟩ := h.begins
  have hminus : Divides d (.symbol "-") := .symbol hd (by decide)
  have hall : Phrase d (.symbol "-" :: p :: ps) := .cons hminus .minus h.written h.ends h.lexemes_ne_nil
  by_cases hsign : p = .symbol "-"
  · subst hsign
    exact hall
  have hnegated : QueryBook.Sql.negated (p :: ps) = .symbol "-" :: tight (p :: ps) := by
    obtain ⟨gap, m⟩ := p
    obtain rfl : gap = true := hp.gap
    unfold QueryBook.Sql.negated
    split
    · rename_i heq
      simp only [List.cons.injEq, Part.mk.injEq] at heq
      obtain ⟨⟨rfl, rfl⟩, rfl⟩ := heq
      exact absurd rfl hsign
    · rfl
  have hlexemes : lexemes (.symbol "-" :: tight (p :: ps)) = lexemes (.symbol "-" :: p :: ps) := by
    simp
  obtain ⟨c, cs, hchars, hdash, hangle⟩ := hp.char.resolve_left hsign
  rw [hnegated]
  refine ⟨⟨fun rest hrest => ?_, fun q hq => ?_, ?_, ?_⟩, ⟨_, _, rfl, .minus⟩, ?_⟩
  -- The sign stands directly before the first character, which makes no longer sign with it.
  · have hhead : (chars d (tight (p :: ps)) ++ rest).head? = some c := by
      simp [tight, chars, hchars]
    have hsign : Laid d [.symbol "-"] (chars d (tight (p :: ps)) ++ rest) :=
      laid_minus hd (fun heq => hdash (Option.some.inj (hhead.symm.trans heq)))
        fun heq => hangle (Option.some.inj (hhead.symm.trans heq))
    exact hsign.append
      (Laid.tight_iff.mpr (h.written.laid rest hrest))
  · cases hq
    exact .inl rfl
  · rw [hlexemes]
    exact hall.written.spaced
  · rw [hlexemes]
    exact hall.written.printed
  · rw [hlexemes]
    exact hall.ends

omit hd in
/-- Words and signs between two expressions. -/
theorem Phrase.operator (h : Phrase d ps) {ops : List Part} (hops : ∀ p ∈ ops, Divides d p)
    (h' : Phrase d qs) (hne : ops ≠ []) : Phrase d (ps ++ (ops ++ qs)) := by
  refine h.append_segment ?_ ?_
  · obtain ⟨p, ops, rfl⟩ := List.exists_cons_of_ne_nil hne
    obtain ⟨hp, hops⟩ := List.forall_mem_cons.mp hops
    exact .cons hp (.consAll hops h'.written)
  · rw [lexemes_append, List.getLast?_append_of_ne_nil _ h'.lexemes_ne_nil]
    exact h'.ends

end

/-! ## Operators -/

/-- Operators that are printed with words of the grammar or with signs. -/
def BinaryOp.printed : List BinaryOp :=
  [.or, .xor, .and, .equal, .unequal, .less, .lessEqual, .greater, .greaterEqual, .is, .isDistinct,
   .isNotDistinct, .like, .notLike, .ilike, .notIlike, .bitAnd, .bitOr, .bitXor, .concat, .add,
   .subtract, .remainder, .collate, .multiply, .divide, .distance, .hasKey]

theorem BinaryOp.divides (hd : d ∈ Dialect.all) {op : BinaryOp} (hop : op ∈ printed) :
    ∀ p ∈ op.parts, Divides d p := by
  have hfacts : ∀ op ∈ printed, ∀ p ∈ op.parts,
      p ∈ (Lexeme.grammarWords.erase "WITH").map Part.word ∨ p ∈ printedSigns.map Part.symbol := by
    decide
  intro p hp
  rcases hfacts op hop p hp with h | h
  · obtain ⟨s, hs, rfl⟩ := List.mem_map.mp h
    exact .word hd hs
  · obtain ⟨s, hs, rfl⟩ := List.mem_map.mp h
    exact .symbol hd hs

/-- The operators of the levels are among them. -/
theorem BinaryOp.printed_of_operators {level : Level} {op : BinaryOp} (hl : l ∈ level.operators)
    (hsign : Layout.lexemes op.parts = [l]) : op ∈ printed := by
  by_contra hnot
  have hlevel : level ∈ Level.operand.above := by
    cases level <;> first | decide | cases hl
  have hall : ∀ level ∈ Level.operand.above,
      ∀ op ∈ [BinaryOp.assign, .argument, .leadsTo, .glob, .similar, .escape, .overlaps,
        .overlapsArray, .extendsLeft, .extendsRight, .shiftLeft, .shiftRight, .path, .pathText,
        .slice], ∀ l ∈ level.operators, Layout.lexemes op.parts ≠ [l] := by
    decide
  refine hall level hlevel op ?_ l hl hsign
  cases op <;> first | decide | exact absurd (by decide) hnot

/-! ## Shapes -/

/-- An expression without comments, whose parts are a phrase. -/
structure Expr.Shape (d : Dialect) (e : Expr) : Prop where
  bare : e.bare = e
  phrase : Phrase d (e.parts d)

namespace Expr.Shape

theorem lexemes_ne_nil (h : e.Shape d) : e.lexemes d ≠ [] :=
  h.phrase.lexemes_ne_nil

theorem tame (h : e.Shape d) : ∀ l ∈ e.lexemes d, l.isTame = true :=
  h.phrase.written.tame

section

variable (hd : d ∈ Dialect.all)
include hd

/-- Expressions between commas. -/
theorem commas {es : List Expr} (h : ∀ x ∈ es, x.Shape d) :
    Written d (Layout.commas (exprsParts d es)) := by
  refine .commas hd fun ps hps => ?_
  rw [exprsParts_eq] at hps
  obtain ⟨x, hx, rfl⟩ := List.mem_map.mp hps
  exact (h x hx).phrase.written

omit hd in
/-- A literal or a placeholder, which is a single part. -/
theorem of_part {p : Part} (he : e.bare = e) (hparts : e.parts d = [p]) (h : Written d [p])
    (hb : Begins d p) (hends : p.lexemes.getLast? ≠ some (.symbol ",")) : e.Shape d := by
  refine ⟨he, ?_⟩
  rw [hparts]
  exact ⟨h, ⟨p, [], rfl, hb⟩, by simpa using hends⟩

theorem constant {c : Constant} (hc : c = .null ∨ d.bitConstants = false) :
    (Expr.constant c).Shape d := by
  refine ⟨rfl, ?_⟩
  have hword : c.word d ∈ ["NOT", "CASE", "EXISTS", "CURRENT_DATE", "NULL", "TRUE", "FALSE", "CAST",
      "TRY_CAST"] := by
    rcases hc with rfl | hc
    · simp [Constant.word]
    · cases c <;> simp [Constant.word, hc]
  rw [Expr.parts]
  exact .grammarWord hd hword .nil fun h => by cases h

theorem negative (h : e.Shape d) : (Expr.unary .negative e).Shape d := by
  refine ⟨rfl, ?_⟩
  rw [Expr.parts]
  exact .negated hd h.phrase

theorem not (h : e.Shape d) : (Expr.unary .not e).Shape d := by
  refine ⟨rfl, ?_⟩
  rw [Expr.parts]
  exact .grammarWord hd (by decide) h.phrase.written h.phrase.ends

theorem group (h : Written d (e.parts d)) : (Expr.group e).Shape d := by
  refine ⟨rfl, ?_⟩
  rw [Expr.parts]
  exact .between hd h

theorem tuple {es : List Expr} (h : ∀ x ∈ es, x.Shape d) : (Expr.tuple es).Shape d := by
  refine ⟨rfl, ?_⟩
  rw [Expr.parts]
  exact .between hd (commas hd h)

theorem nested {q : Query} (h : Written d (q.parts d)) : (Expr.query (.nested q)).Shape d := by
  refine ⟨rfl, ?_⟩
  rw [Expr.parts, Query.parts]
  exact .between hd h

/-- A call of a function by its plain name. -/
theorem call {f : String} {es : List Expr} (hf : IsFunctionName d f)
    (h : Written d (Layout.commas (exprsParts d es))) : (Expr.calling f es).Shape d := by
  have hnot : (d.arrayBrackets && Name.plain f == .plain "ARRAY") = false := by
    rcases hf.parentheses with h | h
    · rw [h, Bool.false_and]
    · simp [h]
  refine ⟨rfl, ?_⟩
  rw [Expr.calling, Expr.parts, callParts, hnot, Name.parts_plain hf.word]
  exact .call hd hf.word hf.tame hf.call h

theorem exists_ {q : Query} (h : Written d (q.parts d)) :
    (Expr.calling "EXISTS" [.query q]).Shape d := by
  have hname : (Name.plain "EXISTS").parts d = [.word "EXISTS"] := Name.parts_plain (by decide)
  refine ⟨rfl, ?_⟩
  have hparts : (Expr.calling "EXISTS" [.query q]).parts d =
      .word "EXISTS" :: Layout.between (.joined "(") (q.parts d) := by
    simp [Expr.calling, Expr.parts, callParts, hname, exprsParts, Layout.commas, separated]
  rw [hparts]
  exact .callWord hd (by decide) h

/-- The window over which a call is computed. -/
theorem windowed {groups keys : List Expr} (h : e.Shape d) (hgroups : ∀ x ∈ groups, x.Shape d)
    (hkeys : ∀ x ∈ keys, x.Shape d) :
    (e.related "OVER" (.group (.phrase (Parser.windowParts groups keys)))).Shape d := by
  have hlist (w : String) (hw : w ∈ Lexeme.grammarWords.erase "WITH") {es : List Expr}
      (hes : ∀ x ∈ es, x.Shape d) :
      Segment d (exprsParts d (if es = [] then [] else [.word w, .listed es])).flatten := by
    split
    · exact .nil
    · simpa [exprsParts, Expr.parts] using Segment.cons (.word hd hw) (commas hd hes)
  have hwindow : Written d (exprsParts d (Parser.windowParts groups keys)).flatten := by
    have happend (es es' : List Expr) : (exprsParts d (es ++ es')).flatten =
        (exprsParts d es).flatten ++ (exprsParts d es').flatten := by
      simp [exprsParts_eq]
    rw [Parser.windowParts, happend]
    exact ((hlist "PARTITION BY" (by decide) hgroups).append
      (hlist "ORDER BY" (by decide) hkeys)).written
  have hparts : (e.related "OVER" (.group (.phrase (Parser.windowParts groups keys)))).parts d =
      e.parts d ++ .word "OVER" :: Layout.between (.symbol "(")
        (exprsParts d (Parser.windowParts groups keys)).flatten := by
    simp [Expr.related, Expr.parts, exprsParts]
  refine ⟨rfl, ?_⟩
  rw [hparts]
  exact h.phrase.glue (.word hd (by decide)) (.between hd hwindow)

/-- The type of a cast. -/
theorem type {s : String} {sizes : List String} (hs : isWord s = true)
    (ht : (Lexeme.ofWord s).isTame = true)
    (hsizes : ∀ size ∈ sizes, isNumeral size = true ∧ (Lexeme.number size).isTame = true) :
    Written d ((Expr.type s (sizes.map .number) false).parts d) := by
  have hword : Written d [.word s] := .word hd hs ht
  have hnumbers : ∀ ps ∈ exprsParts d (sizes.map .number), Written d ps := by
    rw [exprsParts_eq, List.map_map]
    intro ps hps
    obtain ⟨size, hsize, rfl⟩ := List.mem_map.mp hps
    simpa [Expr.parts] using Written.number (hsizes size hsize).1 (hsizes size hsize).2
  rw [Expr.parts]
  split
  · exact hword
  · exact hword.append_segment (.between hd (.commas hd hnumbers) (.inr rfl))

theorem cast {isTry : Bool} {t : Expr} (h : e.Shape d) (ht : Written d (t.parts d)) :
    (Expr.cast isTry e t).Shape d := by
  refine ⟨rfl, ?_⟩
  rw [Expr.parts]
  exact .callWord hd (by cases isTry <;> decide) (h.phrase.written.glue (.word hd (by decide)) ht)

/-- Two operands with the words or signs of an operator between them. -/
theorem binary {op : BinaryOp} {left right : Expr} (hop : op ∈ BinaryOp.printed)
    (hleft : left.Shape d) (hright : right.Shape d)
    (hopen : op.encloses left = false ∧ op.encloses right = false) :
    (Expr.binary op left right).Shape d := by
  have hne : ∀ op ∈ BinaryOp.printed, op.parts ≠ [] := by decide
  refine ⟨rfl, ?_⟩
  rw [Expr.parts, operandParts, operandParts, hopen.1, hopen.2, if_neg Bool.false_ne_true,
    if_neg Bool.false_ne_true, List.append_assoc]
  exact hleft.phrase.operator (BinaryOp.divides hd hop) hright.phrase (hne op hop)

theorem between {low high : Expr} (he : e.Shape d) (hlow : low.Shape d) (hhigh : high.Shape d) :
    (Expr.between e low high).Shape d := by
  refine ⟨rfl, ?_⟩
  have hparts : (Expr.between e low high).parts d =
      e.parts d ++ .word "BETWEEN" :: (low.parts d ++ .word "AND" :: high.parts d) := by
    simp [Expr.parts]
  rw [hparts]
  exact he.phrase.glue (.word hd (by decide)) (hlow.phrase.glue (.word hd (by decide)) hhigh.phrase)

theorem oneOf {choices : Expr} (he : e.Shape d) (h : choices.Shape d) :
    (Expr.oneOf e choices).Shape d := by
  refine ⟨rfl, ?_⟩
  rw [Expr.parts]
  exact he.phrase.glue (.word hd (by decide)) h.phrase

theorem sorted (direction : Option Direction) (nullsFirst : Bool) (he : e.Shape d) :
    (Expr.sorted e direction nullsFirst).Shape d := by
  have hwords : ∀ p ∈ directionParts direction ++ nullsParts d direction nullsFirst,
      p ∈ ["ASC", "DESC", "FIRST"].map Part.word ∨ p ∈ ["NULLS", "LAST"].map Part.word := by
    simp only [nullsParts, words]
    rcases direction with _ | _ | _ <;> split <;> cases nullsFirst <;> simp [directionParts]
  have hgrammar : ["ASC", "DESC", "FIRST"] ⊆ Lexeme.grammarWords.erase "WITH" :=
    List.subset_def.mpr (by decide)
  have hplain : ["NULLS", "LAST"] ⊆ ["CAST", "TRY_CAST", "TOP", "NULLS", "LAST"] :=
    List.subset_def.mpr (by decide)
  have hdivides : ∀ p ∈ directionParts direction ++ nullsParts d direction nullsFirst,
      Divides d p := by
    intro p hp
    rcases hwords p hp with h | h
    · obtain ⟨s, hs, rfl⟩ := List.mem_map.mp h
      exact .word hd (hgrammar hs)
    · obtain ⟨s, hs, rfl⟩ := List.mem_map.mp h
      exact .plainWord hd (hplain hs)
  refine ⟨rfl, ?_⟩
  rw [Expr.parts, List.append_assoc]
  refine he.phrase.append_segment (.of_all hdivides) fun hlast => ?_
  -- Words are no commas.
  obtain ⟨p, hp, hmem⟩ := List.mem_flatMap.mp (List.mem_of_getLast? hlast)
  have hword : ∃ s, p = .word s := by
    rcases hwords p hp with h | h <;> obtain ⟨s, -, rfl⟩ := List.mem_map.mp h <;> exact ⟨s, rfl⟩
  obtain ⟨s, rfl⟩ := hword
  rcases Lexeme.ofWord_cases s with h | ⟨kind, h⟩ <;> simp [h] at hmem

theorem case {subject? otherwise? : Option Expr} {branches : List (Expr × Expr)}
    (hsubject : ∀ e ∈ subject?, e.Shape d) (htests : ∀ b ∈ branches, b.1.Shape d)
    (hresults : ∀ b ∈ branches, b.2.Shape d) (hotherwise : ∀ e ∈ otherwise?, e.Shape d) :
    (Expr.case subject? branches otherwise?).Shape d := by
  have hbranches : Segment d (branchesParts d branches) := by
    induction branches with
    | nil =>
      rw [branchesParts]
      exact .nil
    | cons b branches ih =>
      obtain ⟨test, result⟩ := b
      obtain ⟨htest, htests⟩ := List.forall_mem_cons.mp htests
      obtain ⟨hresult, hresults⟩ := List.forall_mem_cons.mp hresults
      have hbranch : Written d (test.parts d ++ .word "THEN" :: result.parts d) :=
        htest.phrase.written.glue (.word hd (by decide)) hresult.phrase.written
      have hparts : branchesParts d ((test, result) :: branches) =
          (.word "WHEN" :: (test.parts d ++ .word "THEN" :: result.parts d)) ++
            branchesParts d branches := by
        simp [branchesParts]
      rw [hparts]
      exact (Segment.cons (.word hd (by decide)) hbranch).append (ih htests hresults)
  have helse : Segment d (partsBehind d ["ELSE"] otherwise?) := by
    cases otherwise? with
    | none =>
      rw [partsBehind]
      exact .nil
    | some e =>
      rw [partsBehind]
      exact .cons (.word hd (by decide)) (hotherwise e rfl).phrase.written
  have hend : Segment d [.word "END"] := .of_divides (.word hd (by decide))
  have hrest := hbranches.append (helse.append hend)
  have hparts : (Expr.case subject? branches otherwise?).parts d = .word "CASE" ::
      (subject?.elim [] (Expr.parts d) ++ (branchesParts d branches ++
        (partsBehind d ["ELSE"] otherwise? ++ [.word "END"]))) := by
    cases subject? <;> cases otherwise? <;> simp [Expr.parts, partsBehind, words]
  refine ⟨rfl, ?_⟩
  rw [hparts]
  refine .grammarWord hd (by decide) ?_ ?_
  · cases subject? with
    | none => exact hrest.written
    | some e => exact (hsubject e rfl).phrase.written.append_segment hrest
  · have hlast : Layout.lexemes [.word "END"] ≠ [] := by simp
    rw [lexemes_append, lexemes_append, lexemes_append, ← List.append_assoc, ← List.append_assoc,
      List.getLast?_append_of_ne_nil _ hlast]
    decide

end

end Expr.Shape

end QueryBook.Sql
