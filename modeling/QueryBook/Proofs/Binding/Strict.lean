import QueryBook.Proofs.Binding.Bound
import QueryBook.Proofs.Binding.Occurrence

/-!
# Strict binding

Strict binding is meant to return only when the placeholders of a query are exactly the
parameters (`Matched`). What it checks is something else: that every parameter was taken
somewhere, and that no placeholder is left when the tokens that were taken are replaced by spaces.
`Settled` says what this comes to. The two differ in both directions. A token is also taken where
it only begins a longer placeholder, or behind a colon that opens none, and then it counts as
used and fills the placeholder; and a space in place of a token lets a colon behind it open a
placeholder that the query does not have (`Exposed`). `strict_binding_exact` determines the result
and the queries on which the check does what it is meant to do.
-/

namespace QueryBook

open Text Template

namespace Binding

/-- The placeholders of the query are exactly the parameters. -/
def Matched (sql : String) (params : Params) : Prop :=
  ∀ name, name ∈ findPlaceholders sql ↔ name ∈ params.map Prod.fst

/-- A token directly before a colon that stays and a character that can begin a name. -/
def Exposed (ps : List (Piece Value)) : Prop :=
  ∃ before name value c after,
    ps = before ++ .bound name value :: .copied ':' :: .copied c :: after ∧ startsName c = true

/-- What strict binding checks: every parameter is taken somewhere, every placeholder is begun by
the name of a parameter, and no token is exposed. -/
structure Settled (sql : String) (params : Params) : Prop where
  used : ∀ p ∈ params, p.1.toList ∈ taken (cut sql params)
  begun : ∀ name ∈ findPlaceholders sql, ∃ p ∈ params, p.1.toList <+: name.toList
  covered : ¬ Exposed (cut sql params)

/-! ## Placeholders between spaces -/

variable {β : Type}

@[simp] theorem blanked_nil : blanked ([] : List (Piece β)) = [] := rfl

@[simp] theorem blanked_copied (c : Char) (ps : List (Piece β)) :
    blanked (.copied c :: ps) = c :: blanked ps := rfl

@[simp] theorem blanked_bound (name : List Char) (value : β) (ps : List (Piece β)) :
    blanked (.bound name value :: ps) = ' ' :: blanked ps := rfl

@[simp] theorem blanked_append (ps qs : List (Piece β)) :
    blanked (ps ++ qs) = blanked ps ++ blanked qs :=
  fill_append _ ps qs

/-- With spaces for the tokens a colon may open a placeholder behind a token, and otherwise where
it may in the template. -/
theorem opensAfter_blanked {before : List (Piece β)} :
    Placeholder.opensAfter (blanked before).getLast? = true ↔
      (∃ init name value, before = init ++ [.bound name value]) ∨
        Placeholder.opensAfter (source before).getLast? = true := by
  rcases List.eq_nil_or_concat before with rfl | ⟨init, last, rfl⟩
  · simp
  · rw [List.concat_eq_append]
    cases last with
    | copied c => simp
    | bound name value =>
      have hspace : Placeholder.opensAfter (some ' ') = true := by decide
      simp [hspace]

/-- Placeholders are left over if and only if a colon that stays opens one between the spaces. -/
theorem unresolved_eq_nil_iff {ps : List (Piece β)} :
    unresolved ps = [] ↔
      ∀ before c after, ps = before ++ .copied ':' :: .copied c :: after → startsName c = true →
        Placeholder.opensAfter (blanked before).getLast? = false := by
  rw [unresolved, List.eq_nil_iff_forall_not_mem]
  constructor
  · intro h before c after hsplit hstarts
    rw [Bool.eq_false_iff]
    intro hopens
    refine h (String.ofList ((c :: blanked after).takeWhile isWordChar)) ?_
    refine Placeholder.mem_names.2 ⟨blanked before, ':', c :: blanked after, by simp [hsplit], ?_⟩
    exact Placeholder.at?_eq_some.2 ⟨rfl, hopens, hstarts, by simp⟩
  · intro h name hname
    obtain ⟨us, d, vs, htext, hat⟩ := Placeholder.mem_names.1 hname
    obtain ⟨rfl, hopens, hstarts, -⟩ := Placeholder.at?_eq_some.1 hat
    obtain ⟨before, p, after, rfl, rfl, hp⟩ := split_at_colon (by simp) htext
    cases p with
    | bound name value => cases hp
    | copied e =>
      obtain ⟨rfl, rfl⟩ := List.cons.inj hp
      rcases after with _ | ⟨c | ⟨name, value⟩, after⟩
      · cases hstarts
      · have hclosed := h before c after rfl hstarts
        exact absurd hopens (by rw [blanked] at hclosed; simp [hclosed])
      · cases hstarts

/-! ## What strict binding checks -/

section

variable {sql : String} {params : Params}

theorem isName_named (hnames : ∀ p ∈ params, Placeholder.IsName p.1.toList) :
    ∀ p ∈ named params, Placeholder.IsName p.1 := by
  intro p hp
  obtain ⟨q, hq, rfl⟩ := List.mem_map.1 hp
  exact hnames q hq

theorem unused_eq_nil_iff {ps : List (Piece β)} :
    unused params ps = [] ↔ ∀ p ∈ params, p.1.toList ∈ taken ps := by
  simp [unused, List.filter_eq_nil_iff]

/-- Placeholders are left over if and only if there is one that no parameter's name begins, or an
exposed token. -/
theorem unresolved_cut_eq_nil_iff (hnames : ∀ p ∈ params, Placeholder.IsName p.1.toList) :
    unresolved (cut sql params) = [] ↔
      (∀ name ∈ findPlaceholders sql, ∃ p ∈ params, p.1.toList <+: name.toList) ∧
        ¬ Exposed (cut sql params) := by
  have hcut := cut_longestCut sql params
  rw [unresolved_eq_nil_iff]
  constructor
  · refine fun h => ⟨fun name hname => ?_, ?_⟩
    · obtain ⟨us, d, vs, htext, hat⟩ := Placeholder.mem_names.1 hname
      obtain ⟨rfl, hopens, hstarts, -⟩ := Placeholder.at?_eq_some.1 hat
      rw [htext] at hcut
      rcases hcut.placeholder (isName_named hnames) hat with
        ⟨before, after, hsplit, rfl, rfl, -⟩ | ⟨-, token, value, -, -, -, -, htoken, hpre, -⟩
      · rcases after with _ | ⟨c | ⟨token, value⟩, after⟩
        · cases hstarts
        · have hclosed := h before c after hsplit hstarts
          rw [opensAfter_blanked.2 (.inr hopens)] at hclosed
          cases hclosed
        · cases hstarts
      · obtain ⟨p, hp, hpair⟩ := List.mem_map.1 htoken
        cases hpair
        exact ⟨p, hp, hpre⟩
    · rintro ⟨before, name, value, c, after, hsplit, hstarts⟩
      have hclosed := h (before ++ [.bound name value]) c after (by simp [hsplit]) hstarts
      rw [opensAfter_blanked.2 (.inl ⟨before, name, value, rfl⟩)] at hclosed
      cases hclosed
  · rintro ⟨hbegun, hcovered⟩ before c after hsplit hstarts
    rw [Bool.eq_false_iff]
    intro hopens
    rcases opensAfter_blanked.1 hopens with ⟨init, name, value, rfl⟩ | hopens
    -- Behind a token the colon is exposed; elsewhere it opens a placeholder of the template, whose
    -- name begins with a parameter's, so that a token begins at a character that stays.
    · exact hcovered ⟨init, name, value, c, after, by simp [hsplit], hstarts⟩
    · have hname : String.ofList ((c :: source after).takeWhile isWordChar) ∈
          findPlaceholders sql := by
        refine Placeholder.mem_names.2 ⟨source before, ':', c :: source after, ?_, ?_⟩
        · rw [← source_cut sql params, hsplit]
          simp
        · exact Placeholder.at?_eq_some.2 ⟨rfl, hopens, hstarts, by simp⟩
      obtain ⟨p, hp, hpre⟩ := hbegun _ hname
      rw [String.toList_ofList, (hnames p hp).prefix_takeWhile] at hpre
      have hgap := hcut.gap ':' (.copied c :: after) ⟨before, hsplit.symm⟩
      exact hgap _ (mem_named hp) (List.cons_prefix_cons.2 ⟨rfl, hpre⟩)

theorem settled_iff (hnames : ∀ p ∈ params, Placeholder.IsName p.1.toList) :
    Settled sql params ↔
      unused params (cut sql params) = [] ∧ unresolved (cut sql params) = [] := by
  rw [unused_eq_nil_iff, unresolved_cut_eq_nil_iff hnames]
  exact ⟨fun h => ⟨h.used, h.begun, h.covered⟩, fun ⟨hused, hbegun, hcovered⟩ =>
    ⟨hused, hbegun, hcovered⟩⟩

/-- When the placeholders are the parameters, every token is a whole placeholder, and only an
exposed token can make strict binding refuse the query. -/
theorem settled_iff_of_matched (hnames : ∀ p ∈ params, Placeholder.IsName p.1.toList)
    (hmatched : Matched sql params) : Settled sql params ↔ ¬ Exposed (cut sql params) := by
  refine ⟨fun h => h.covered, fun hcovered => ⟨fun p hp => ?_, fun name hname => ?_, hcovered⟩⟩
  · have hname := (hmatched p.1).2 (List.mem_map.2 ⟨p, hp, rfl⟩)
    obtain ⟨us, d, vs, htext, hat⟩ := Placeholder.mem_names.1 hname
    obtain ⟨rfl, -⟩ := Placeholder.at?_eq_some.1 hat
    have hcut := cut_longestCut sql params
    rw [htext] at hcut
    obtain ⟨before, value, after, hsplit, -⟩ :=
      hcut.whole_placeholder (isName_named hnames) hat (mem_named hp)
    exact mem_taken.2 ⟨value, by simp [hsplit]⟩
  · obtain ⟨p, hp, rfl⟩ := List.mem_map.1 ((hmatched name).1 hname)
    exact ⟨p, hp, List.prefix_rfl⟩

/-- Strict binding returns the lenient text when the query is settled. -/
theorem result_of_settled (hnames : ∀ p ∈ params, Placeholder.IsName p.1.toList)
    (hvalues : ∀ p ∈ params, Renderable p.2) (h : Settled sql params) :
    (bindParameters sql params true).result = .ok (String.ofList (inserted (cut sql params))) := by
  rw [bindParameters_result hvalues, if_neg fun hrefused => hrefused.2 ((settled_iff hnames).1 h)]

/-- Strict binding refuses a query that is not settled, with what is unused and left over. -/
theorem result_of_not_settled (hnames : ∀ p ∈ params, Placeholder.IsName p.1.toList)
    (hvalues : ∀ p ∈ params, Renderable p.2) (h : ¬ Settled sql params) :
    (bindParameters sql params true).result =
      .error (.query (.ofMismatch (unused params (cut sql params))
        (unresolved (cut sql params)))) := by
  rw [bindParameters_result hvalues, if_pos ⟨rfl, fun hnone => h ((settled_iff hnames).2 hnone)⟩]

end

/-- **What strict binding does.** It returns the lenient text when the query is settled, and
otherwise raises the error with the unused parameters and the placeholders left over. That is what
it is meant to do, to return if and only if the placeholders are the parameters, in exactly two
cases: they are and no token is exposed, or they are not and the query is not settled. -/
theorem strict_binding_exact (sql : String) (params : Params)
    (hnames : ∀ p ∈ params, Placeholder.IsName p.1.toList)
    (hvalues : ∀ p ∈ params, Renderable p.2) :
    (Settled sql params → (bindParameters sql params true).result =
        .ok (String.ofList (inserted (cut sql params)))) ∧
      (¬ Settled sql params → (bindParameters sql params true).result =
        .error (.query (.ofMismatch (unused params (cut sql params))
          (unresolved (cut sql params))))) ∧
      (((∃ bound, (bindParameters sql params true).result = .ok bound) ↔ Matched sql params) ↔
        Matched sql params ∧ ¬ Exposed (cut sql params) ∨
          ¬ Matched sql params ∧ ¬ Settled sql params) := by
  refine ⟨result_of_settled hnames hvalues, result_of_not_settled hnames hvalues, ?_⟩
  have hreturns : (∃ bound, (bindParameters sql params true).result = .ok bound) ↔
      Settled sql params := by
    constructor
    · rintro ⟨bound, hbound⟩
      by_contra hsettled
      rw [result_of_not_settled hnames hvalues hsettled] at hbound
      cases hbound
    · exact fun hsettled => ⟨_, result_of_settled hnames hvalues hsettled⟩
  rw [hreturns]
  by_cases hmatched : Matched sql params
  · simp [hmatched, settled_iff_of_matched hnames hmatched]
  · simp [hmatched]

/-- The second colon of `:a:b` opens no placeholder, but behind a space it does. -/
theorem strict_refuses_exposed :
    Matched ":a:b" [("a", .number (.int 1))] ∧
      (bindParameters ":a:b" [("a", .number (.int 1))] true).result =
        .error (.query (.ofMismatch [] ["b"])) := by
  have hcut : cut ":a:b" [("a", .number (.int 1))] =
      [.bound ['a'] (.number (.int 1)), .copied ':', .copied 'b'] := by
    simp [cut, named, byLength, pieces, token?]
  have hplaceholders : findPlaceholders ":a:b" = ["a"] := by decide
  have hexposed : Exposed (cut ":a:b" [("a", .number (.int 1))]) :=
    ⟨[], ['a'], .number (.int 1), 'b', [], hcut, by decide⟩
  have hunused : unused [("a", .number (.int 1))] (cut ":a:b" [("a", .number (.int 1))]) = [] := by
    rw [hcut]
    decide
  have hunresolved : unresolved (cut ":a:b" [("a", .number (.int 1))]) = ["b"] := by
    rw [hcut]
    decide
  refine ⟨by simp [Matched, hplaceholders], ?_⟩
  rw [(strict_binding_exact ":a:b" [("a", .number (.int 1))]
    (by decide) (by simp [renderable_number])).2.1
    fun hsettled => hsettled.covered hexposed, hunused, hunresolved]

/-- Strict binding does not return only when the placeholders are the parameters: the token of
`id` is taken in `:idx`, so that nothing is unused and nothing is left over. -/
theorem strict_returns_unmatched :
    ¬ ∀ (sql : String) (params : Params), (∀ p ∈ params, Placeholder.IsName p.1.toList) →
      (∀ p ∈ params, Renderable p.2) →
      ((∃ bound, (bindParameters sql params true).result = .ok bound) ↔ Matched sql params) := by
  intro h
  have hreturns : (bindParameters "SELECT :idx" [("id", .number (.int 7))] true).result =
      .ok "SELECT 7x" := by decide +kernel
  have hplaceholders : findPlaceholders "SELECT :idx" = ["idx"] := by decide
  have hmatched := (h "SELECT :idx" [("id", .number (.int 7))]
    (by decide) (by simp [renderable_number])).1 ⟨_, hreturns⟩
  have hidx := (hmatched "idx").1 (by simp [hplaceholders])
  simp at hidx

end Binding

end QueryBook
