import QueryBook.Proofs.Sql.Reader.Operand

/-!
# Reading lists and arguments

Elements with commas between them are read one by one, as long as each of them stops before a comma
(`separated_reads`). An argument of a call is looked at twice: first for parameters before an arrow,
which no printed statement here has (`argument_eq`), and then as an expression.
-/

namespace QueryBook.Sql

open Lexeme (kw lastOf)

/-- Phrases with commas between them. -/
def Lexeme.commas : List (List Lexeme) → List Lexeme
  | [] => []
  | [ls] => ls
  | ls :: more => ls ++ .symbol "," :: commas more

namespace Lexeme

theorem length_commas (lss : List (List Lexeme)) : lss.length ≤ (commas lss).length + 1 := by
  induction lss with
  | nil => simp
  | cons ls more ih =>
    cases more with
    | nil => simp [commas]
    | cons => simp only [commas, List.length_append, List.length_cons] at ih ⊢; omega

theorem tame_commas {lss : List (List Lexeme)} (h : ∀ ls ∈ lss, ∀ l ∈ ls, l.isTame = true) :
    ∀ l ∈ commas lss, l.isTame = true := by
  induction lss with
  | nil => simp [commas]
  | cons ls more ih =>
    obtain ⟨hls, hmore⟩ := List.forall_mem_cons.mp h
    cases more with
    | nil => exact hls
    | cons ms more =>
      intro l hl
      rcases List.mem_append.mp hl with hl | hl
      · exact hls l hl
      · rcases List.mem_cons.mp hl with rfl | hl
        · decide
        · exact ih hmore l hl

end Lexeme

namespace Parser

variable {α : Type} {g : Grammar} {ls ms rest : List Lexeme} {e : Expr}

/-! ## Lists -/

section

variable {ι : Type} {level : Level} {element : Parser (Option Expr)} {phrase : ι → List Lexeme}
  {value : ι → Expr}

/-- A list between commas, whose elements may stand before a comma and before the rest. -/
theorem separatedUpTo_reads (hcomma : .symbol "," ∈ level.followers) (hf : Follows level rest)
    (hend : rest.head?.any (·.isSymbol ",") = false) {xs : List ι} {n : Nat} (hne : xs ≠ [])
    (hn : xs.length ≤ n)
    (hread : ∀ x ∈ xs, ∀ rest, Follows level rest → Reads element (phrase x) (some (value x)) rest)
    (htame : ∀ x ∈ xs, ∀ l ∈ phrase x, l.isTame = true) :
    Reads (separatedUpTo element Expr.annotated n) (Lexeme.commas (xs.map phrase)) (xs.map value)
      rest := by
  induction xs generalizing n with
  | nil => exact absurd rfl hne
  | cons x xs ih =>
    obtain ⟨hreadX, hreadMore⟩ := List.forall_mem_cons.mp hread
    obtain ⟨-, htameMore⟩ := List.forall_mem_cons.mp htame
    obtain ⟨n, rfl⟩ := Nat.exists_eq_add_one_of_ne_zero (Nat.ne_of_gt (Nat.lt_of_lt_of_le
      (Nat.zero_lt_succ _) hn))
    intro last?
    cases xs with
    | nil => simp [Lexeme.commas, separatedUpTo, hreadX rest hf _, symbol_leaves _ hend _]
    | cons x' xs =>
      have hmore := ih (List.cons_ne_nil _ _) (Nat.le_of_succ_le_succ hn) hreadMore htameMore
      have htames : ∀ l ∈ Lexeme.commas ((x' :: xs).map phrase) ++ rest, l.isTame = true := by
        intro l hl
        rcases List.mem_append.mp hl with hl | hl
        · refine Lexeme.tame_commas (fun ls hls => ?_) l hl
          obtain ⟨x, hx, rfl⟩ := List.mem_map.mp hls
          exact htameMore x hx
        · exact hf.tame l hl
      have hfirst := hreadX _ (Follows.cons hcomma (by simp) (by decide) htames)
      simp only [List.map_cons] at hmore hfirst
      simp [Lexeme.commas, separatedUpTo, hfirst _, hmore _, annotated_nil]

theorem separated_reads (hcomma : .symbol "," ∈ level.followers) (hf : Follows level rest)
    (hend : rest.head?.any (·.isSymbol ",") = false) {xs : List ι} (hne : xs ≠ [])
    (hread : ∀ x ∈ xs, ∀ rest, Follows level rest → Reads element (phrase x) (some (value x)) rest)
    (htame : ∀ x ∈ xs, ∀ l ∈ phrase x, l.isTame = true) :
    Reads (separated element) (Lexeme.commas (xs.map phrase)) (xs.map value) rest := by
  intro last?
  have hlength := Lexeme.length_commas (xs.map phrase)
  simp only [List.length_map] at hlength
  have hn : xs.length ≤ (Lexeme.commas (xs.map phrase) ++ rest).length + 2 := by
    rw [List.length_append]
    omega
  simp only [separated, run_bind, run_get, Option.bind_some, Cursor.before_rest_length]
  exact separatedUpTo_reads hcomma hf hend hne hn hread htame last?

end

theorem separated_leaves {element : Parser (Option Expr)} (h : Leaves element none ls)
    (hend : ls.head?.any (·.isSymbol ",") = false) : Leaves (separated element) [] ls := by
  intro last?
  simp [separated, separatedUpTo, h last?, symbol_leaves _ hend last?]

/-! ## Queries among expressions -/

theorem queryOr_reads_query {p : Parser (Option Expr)} {q : Query}
    (h : Reads (g.query .alone) ls (some q) rest) :
    Reads (queryOr g p) ls (some (.query q)) rest := by
  intro last?
  simp [queryOr, h last?]

theorem queryOr_reads {p : Parser (Option Expr)} (hq : Leaves (g.query .alone) none (ls ++ rest))
    (hp : Reads p ls (some e) rest) (he : e.bare = e)
    (hset : ∀ q, e = .query q → Leaves (g.setOperations q) q rest) :
    Reads (queryOr g p) ls (some e) rest := by
  intro last?
  cases e with
  | query q => simp only [queryOr, hq last?, hp last?, Expr.bare, hset q rfl _, comments_of_bare he,
      annotated_nil, run_bind, run_pure, Option.bind_some, annotated_nil]
  | _ => simp only [queryOr, hq last?, hp last?, he, run_bind, run_pure, Option.bind_some]

theorem queryOr_leaves {p : Parser (Option Expr)} (hq : Leaves (g.query .alone) none ls)
    (hp : Leaves p none ls) : Leaves (queryOr g p) none ls := by
  intro last?
  simp [queryOr, hq last?, hp last?]

/-! ## Arguments -/

/-- A parser moves over some of the lexemes ahead, whatever it finds. -/
def Moves (p : Parser α) (ls : List Lexeme) : Prop :=
  ∀ last?, ∃ a ms rest, ls = ms ++ rest ∧
    p (.before last? ls) = some (a, .before (lastOf last? ms) rest)

theorem Leaves.moves {p : Parser α} {a : α} (h : Leaves p a ls) : Moves p ls :=
  fun last? => ⟨a, [], ls, rfl, h last?⟩

theorem Moves.of_reads {p : Parser α} {a : α} (h : Reads p ls a rest) : Moves p (ls ++ rest) :=
  fun last? => ⟨a, ls, rest, rfl, h last?⟩

/-- A colon is a placeholder together with the word behind it, and nothing alone. -/
theorem colon_moves : Moves (nameWhere g true Keyword.isName) (.symbol ":" :: ls) := by
  intro last?
  have hmany : Leaves (many do if ← symbol "@" then return some () else return none) []
      (.symbol ":" :: ls) := many_leaves fun last? => by simp
  have hno : (Lexeme.symbol ":").isNoName = true := by decide
  have hbound {l : Lexeme} {s : String} (rest : List Lexeme)
      (hl : l = .word s ∨ ∃ kind, l = .keyword kind s) :
      nameWhere g true Keyword.isName (.before last? (.symbol ":" :: l :: rest)) =
        some (some (.name (.bound s)), .before (some l) rest) := by
    have hread : identifier g (.before last? (.symbol ":" :: l :: rest)) =
        some (some (.name (.bound s)), .before (some l) rest) := identifier_reads_bound hl last?
    simp only [nameWhere, run_bind, hread, Option.bind_some, run_pure]
  have hnone (h : mark (.before last? (.symbol ":" :: ls)) =
      some (none, .before last? (.symbol ":" :: ls))) :
      nameWhere g true Keyword.isName (.before last? (.symbol ":" :: ls)) =
        some (none, .before last? (.symbol ":" :: ls)) := by
    simp only [nameWhere, identifier, quotedOrMark, placeholder, isWordOf, run_bind, run_pure,
      run_ahead?, List.head?_cons, h, hmany _, run_accept, hno, Option.bind_some, Bool.not_true,
      Bool.true_and, Bool.or_self, Bool.false_eq_true, if_false]
  rcases ls with _ | ⟨l, ls⟩
  · exact ⟨none, [], _, rfl, hnone (by simp [mark, run_retreat])⟩
  · cases l with
    | word s => exact ⟨some (.name (.bound s)), [_, _], ls, rfl, hbound ls (.inl rfl)⟩
    | keyword kind s => exact ⟨some (.name (.bound s)), [_, _], ls, rfl, hbound ls (.inr ⟨kind, rfl⟩)⟩
    | _ => exact ⟨none, [], _, rfl, hnone (by simp [mark, run_retreat])⟩

/-- Where a name is certain, a parser of names moves over at most a name or a placeholder. -/
theorem certainName_moves (htame : ∀ l ∈ ls, l.isTame = true) : Moves (certainName g) ls := by
  rcases ls with _ | ⟨l, ls⟩
  · exact (nameWhere_leaves rfl).moves
  by_cases hid : l.beginsIdentifier = true
  · cases l with
    | quoted s =>
      have h : Reads (certainName g) [.quoted s] (some (.name (.quoted s))) ls :=
        nameWhere_reads rfl rfl
      exact .of_reads h
    | symbol s =>
      have hs : s = "?" ∨ s = ":" ∨ s = "@" := by simpa [Lexeme.beginsIdentifier] using hid
      rcases hs with rfl | rfl | rfl
      · exact fun last? => ⟨some (.name .anonymous), [_], ls, rfl, by
          simp only [certainName, nameWhere, identifier_reads_anonymous.one, run_bind, run_pure,
            Option.bind_some, Bool.true_and, Lexeme.lastOf_cons, Lexeme.lastOf_nil]⟩
      · exact colon_moves
      · exact absurd (htame _ List.mem_cons_self) (by decide)
    | _ => cases hid
  · intro last?
    have hid : Leaves (identifier g) none (l :: ls) := identifier_leaves (by simpa using hid)
    by_cases hl : (!l.isNoName || isWordOf Keyword.isName l) = true
    · cases l with
      | text s =>
        exact ⟨some (.name (.quoted s)), [_], ls, rfl, by
          simp only [certainName, nameWhere, hid last?, hl, run_bind, run_pure, run_ite, run_last?,
            run_made, run_accept, Option.bind_some, if_true, Bool.true_and, Lexeme.lastOf_cons,
            Lexeme.lastOf_nil]⟩
      | _ =>
        exact ⟨some (.name (.plain _)), [_], ls, rfl, by
          simp only [certainName, nameWhere, hid last?, hl, run_bind, run_pure, run_ite, run_last?,
            run_made, run_accept, Option.bind_some, if_true, Bool.true_and, Lexeme.lastOf_cons,
            Lexeme.lastOf_nil]; rfl⟩
    · exact ⟨none, [], _, rfl, by
        simp only [certainName, nameWhere, hid last?, hl, run_bind, run_pure, run_ite, run_last?,
          run_accept, Option.bind_some, if_false, Bool.false_eq_true, Bool.true_and,
          Lexeme.lastOf_nil]⟩

theorem separatedUpTo_moves {element : Parser (Option Expr)}
    (h : ∀ ls, (∀ l ∈ ls, l.isTame = true) → Moves element ls) {n : Nat}
    (htame : ∀ l ∈ ls, l.isTame = true) (hn : ls.length < n) :
    Moves (separatedUpTo element Expr.annotated n) ls := by
  induction n generalizing ls with
  | zero => omega
  | succ n ih =>
    intro last?
    obtain ⟨first, ms, rest, rfl, hfirst⟩ := h ls htame last?
    rcases hcomma : rest.head?.any (·.isSymbol ",") with _ | _
    · exact ⟨first.toList, ms, rest, rfl, by
        simp [separatedUpTo, hfirst, symbol_leaves _ hcomma _]⟩
    · obtain ⟨l, rest, rfl⟩ : ∃ l rest', rest = l :: rest' := by
        cases rest <;> simp_all
      obtain rfl : l = .symbol "," := Lexeme.isSymbol_iff.mp (by simpa using hcomma)
      have htame' : ∀ l ∈ rest, l.isTame = true := fun l hl => htame l (by simp [hl])
      obtain ⟨es, ms', rest', rfl, hmore⟩ := ih htame' (by simp at hn; omega) (some (.symbol ","))
      refine ⟨first.toList ++ es, ms ++ .symbol "," :: ms', rest', by simp, ?_⟩
      cases first <;> simp [separatedUpTo, hfirst, hmore, annotated_nil]

theorem names_moves (htame : ∀ l ∈ ls, l.isTame = true) :
    Moves (separated (certainName g)) ls := by
  intro last?
  simp only [separated, run_bind, run_get, Option.bind_some, Cursor.before_rest_length]
  exact separatedUpTo_moves (fun _ => certainName_moves) htame
    (Nat.lt_add_of_pos_right Nat.two_pos) last?

/-- Looking for the parameters before an arrow moves over some lexemes. -/
theorem parameters_moves (htame : ∀ l ∈ ls, l.isTame = true) : Moves (parameters g) ls := by
  intro last?
  rcases hparen : ls.head?.any (·.isSymbol "(") with _ | _
  · obtain ⟨e?, ms, rest, rfl, hname⟩ := certainName_moves (g := g) htame last?
    exact ⟨e?.toList, ms, rest, rfl, by
      simp only [parameters, symbol_leaves _ hparen _, hname, run_bind, run_pure, run_ite, run_get,
        Option.bind_some, if_false, Bool.false_eq_true]⟩
  · obtain ⟨l, ls, rfl⟩ : ∃ l ls', ls = l :: ls' := by
      cases ls <;> simp_all
    obtain rfl : l = .symbol "(" := Lexeme.isSymbol_iff.mp (by simpa using hparen)
    have htame : ∀ l ∈ ls, l.isTame = true := fun l hl => htame l (by simp [hl])
    obtain ⟨es, ms, rest, rfl, hnames⟩ := names_moves (g := g) htame (some (.symbol "("))
    rcases hclose : rest.head?.any (·.isSymbol ")") with _ | _
    · refine ⟨es, [], _, rfl, ?_⟩
      simp only [parameters, hnames, symbol_leaves _ hclose _,
        run_retreat_of_lt _ _ (Lexeme.length_lt _ ms rest), run_bind, run_pure, run_ite, run_get,
        run_symbol, Option.bind_some, if_true, if_false, Bool.false_eq_true, beq_self_eq_true,
        Lexeme.isSymbol_symbol, Lexeme.lastOf_nil]
    · obtain ⟨l, rest, rfl⟩ : ∃ l rest', rest = l :: rest' := by
        cases rest <;> simp_all
      obtain rfl : l = .symbol ")" := Lexeme.isSymbol_iff.mp (by simpa using hclose)
      refine ⟨es, .symbol "(" :: ms ++ [.symbol ")"], rest, by simp, ?_⟩
      simp only [parameters, hnames, run_bind, run_pure, run_ite, run_get, run_symbol,
        Option.bind_some, List.cons_append, if_true, beq_self_eq_true, Lexeme.isSymbol_symbol,
        Lexeme.lastOf_append, Lexeme.lastOf_cons, Lexeme.lastOf_nil]

/-- Where no arrow is written, an argument has no parameters. -/
theorem argument_eq (htame : ∀ l ∈ ls, l.isTame = true) (canAlias : Bool) (last? : Option Lexeme) :
    argument g canAlias (.before last? ls) = (do
      let e? ← withNulls (← argumentBody g canAlias)
      withLimit g (← withNulls (← withOrder g (← havingBound g e?)))) (.before last? ls) := by
  obtain ⟨names, ms, rest, rfl, hparams⟩ := parameters_moves (g := g) htame last?
  have harrow (mark : String) (hm : mark = "->" ∨ mark = "=>") :
      Leaves (symbol mark) false rest := by
    refine symbol_leaves mark ?_
    cases hrest : rest.head? with
    | none => rfl
    | some l =>
      have hl := htame l (List.mem_append_right _ (List.mem_of_mem_head? hrest))
      rcases hm with rfl | rfl <;> simp_all [Lexeme.isTame]
  have hback : retreat (.before last? (ms ++ rest)) (.before (lastOf last? ms) rest) =
      some (⟨⟩, .before last? (ms ++ rest)) := by
    cases ms with
    | nil => simp
    | cons l ms => exact run_retreat_of_lt _ _ (Lexeme.length_lt l ms rest)
  simp only [argument, run_bind, run_get, Option.bind_some, hparams, harrow "->" (.inl rfl) _,
    harrow "=>" (.inr rfl) _, Bool.false_eq_true, if_false, hback]

/-- Behind an argument, no words about it follow. -/
theorem argument_end (h : Follows .argument rest) (e? : Option Expr) :
    Leaves (withNulls e?) e? rest ∧ Leaves (havingBound g e?) e? rest ∧
      Leaves (withOrder g e?) e? rest ∧ Leaves (withLimit g e?) e? rest := by
  have hnulls : Leaves nullsWords none rest := fun last? => by
    simp only [nullsWords, h.reads "IGNORE" ["NULLS"] (by decide) last?,
      h.reads "RESPECT" ["NULLS"] (by decide) last?, run_bind, run_pure, run_ite, Option.bind_some,
      if_false, Bool.false_eq_true]
  refine ⟨fun last? => ?_, fun last? => ?_, fun last? => ?_, fun last? => ?_⟩
  · simp only [withNulls, hnulls last?, run_bind, run_pure, Option.bind_some]
  · simp only [havingBound, h.keyword "HAVING" (by decide) last?, run_bind, run_pure, run_ite,
      Option.bind_some, if_false, Bool.false_eq_true]
  · simp only [withOrder, order, h.keyword "ORDER BY" (by decide) last?, run_bind, run_pure,
      run_ite, Option.bind_some, if_false, Bool.false_eq_true]
  · simp only [withLimit, limit, h.keyword "LIMIT" (by decide) last?,
      h.keyword "FETCH" (by decide) last?, run_bind, run_pure, run_ite, run_pending,
      Option.bind_some, List.cons_append, List.isEmpty_nil, if_true, if_false, Bool.false_eq_true]

theorem argument_reads {canAlias : Bool} (htame : ∀ l ∈ ls ++ rest, l.isTame = true)
    (hq : Leaves (g.query .alone) none (ls ++ rest)) (ha : Reads g.assignment ls (some e) rest)
    (he : e.bare = e) (hset : ∀ q, e = .query q → Leaves (g.setOperations q) q rest)
    (hhead : (ls ++ rest).head?.any (fun l => l.isKeyword "DISTINCT" || l.isKeyword "ALL") = false)
    (hf : Follows .argument rest) : Reads (argument g canAlias) ls (some e) rest := by
  intro last?
  obtain ⟨hnulls, hhaving, horder, hlimit⟩ := argument_end (g := g) hf (some e)
  have halias : Reads (do
      let e? ← g.assignment
      if canAlias then aliased g true e? else return e?) ls (some e) rest := fun last? => by
    have hnone := aliased_leaves (g := g) (hf.mono (List.subset_def.mpr (by decide))) true (some e)
    cases canAlias <;> simp [ha last?, hnone _]
  have hbody : Reads (argumentBody g canAlias) ls (some e) rest := fun last? => by
    have hdistinct := keyword_leaves "DISTINCT" (any_eq_false hhead (by simp_all)) last?
    have hall := keyword_leaves "ALL" (any_eq_false hhead (by simp_all)) last?
    simp only [argumentBody, run_bind, hdistinct, Option.bind_some, run_ite, Bool.false_eq_true,
      if_false, run_discard, hall, Option.map_some]
    exact queryOr_reads hq halias he hset last?
  simp [argument_eq htame, hbody last?, hnulls _, hhaving _, horder _, hlimit _]

/-- No argument begins with the lexeme. -/
theorem argument_leaves {canAlias : Bool} (htame : ∀ l ∈ ls, l.isTame = true)
    (hq : Leaves (g.query .alone) none ls) (ha : Leaves g.assignment none ls)
    (hf : Follows .argument ls) : Leaves (argument g canAlias) none ls := by
  intro last?
  obtain ⟨hnulls, hhaving, horder, hlimit⟩ := argument_end (g := g) hf none
  have halias : Leaves (do
      let e? ← g.assignment
      if canAlias then aliased g true e? else return e?) none ls := fun last? => by
    have hnone := aliased_leaves (g := g) (hf.mono (List.subset_def.mpr (by decide))) true none
    cases canAlias <;> simp [ha last?, hnone _]
  have hbody : Leaves (argumentBody g canAlias) none ls := fun last? => by
    simp only [argumentBody, run_bind, hf.keyword "DISTINCT" (by decide) last?, Option.bind_some,
      run_ite, Bool.false_eq_true, if_false, run_discard, hf.keyword "ALL" (by decide) last?,
      Option.map_some]
    exact queryOr_leaves hq halias last?
  simp [argument_eq htame, hbody last?, hnulls _, hhaving _, horder _, hlimit _]

/-- Several values of an argument, each counted once. -/
theorem argument_reads_distinct {canAlias : Bool} {es : List Expr} (hes : es ≠ [])
    (htame : ∀ l ∈ ls ++ rest, l.isTame = true)
    (h : Reads (separated g.disjunction) ls es rest) (hf : Follows .argument rest) :
    Reads (argument g canAlias) (kw "DISTINCT" :: ls)
      (some (.phrase [.word "DISTINCT", .listed es])) rest := by
  intro last?
  obtain ⟨hnulls, hhaving, horder, hlimit⟩ :=
    argument_end (g := g) hf (some (.phrase [.word "DISTINCT", .listed es]))
  have htame' : ∀ l ∈ kw "DISTINCT" :: (ls ++ rest), l.isTame = true :=
    List.forall_mem_cons.mpr ⟨by decide, htame⟩
  simp [argument_eq htame', argumentBody, someOf, h _, hes, hnulls _, hhaving _, horder _, hlimit _]

end Parser

end QueryBook.Sql
