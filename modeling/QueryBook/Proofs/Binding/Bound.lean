import QueryBook.Proofs.Binding.Cut

/-!
# The bound text

`bindParameters` renders the values before it cuts the template, and without parameters it cuts
nothing. `cut` is the cut with the values themselves, and `bindParameters_result` gives the result
of binding from it in both modes: the inserted literals, or in strict mode the error that names
what is left over. What is proved of the cut is thereby proved of binding.
-/

namespace QueryBook

open Template

namespace Template

variable {β γ : Type}

/-! ## The cut does not depend on the values -/

theorem byLength_map (g : β → γ) (params : List (List Char × β)) :
    byLength (params.map (Prod.map id g)) = (byLength params).map (Prod.map id g) :=
  (List.map_mergeSort (f := Prod.map id g) fun _ _ _ _ => rfl).symm

theorem token?_map (g : β → γ) (params : List (List Char × β)) (c : Char) (cs : List Char) :
    token? (params.map (Prod.map id g)) c cs = (token? params c cs).map (Prod.map id g) := by
  unfold token?
  split
  · rw [List.find?_map]; rfl
  · rfl

theorem pieces_map (g : β → γ) (params : List (List Char × β)) (text : List Char) :
    pieces (params.map (Prod.map id g)) text = (pieces params text).map (Piece.map g) := by
  fun_induction pieces params text with
  | case1 => rw [pieces]; rfl
  | case2 c cs p htoken ih =>
    rw [pieces, token?_map, htoken]
    exact congrArg (_ :: ·) ih
  | case3 c cs htoken ih =>
    rw [pieces, token?_map, htoken]
    exact congrArg (_ :: ·) ih

/-- Without parameters every character stays. -/
theorem pieces_nil (text : List Char) :
    pieces ([] : List (List Char × β)) text = text.map .copied := by
  induction text with
  | nil => rw [pieces]; rfl
  | cons c cs ih =>
    have htoken : token? ([] : List (List Char × β)) c cs = none := by simp [token?]
    rw [pieces, htoken, ih]; rfl

theorem fill_copies (f : List Char → β → List Char) (text : List Char) :
    fill f (text.map .copied) = text := by
  induction text with
  | nil => rfl
  | cons c cs ih => rw [List.map_cons, fill_copied, ih]

end Template

namespace Binding

/-! ## Literals -/

/-- The literal of a value, and nothing for a value without one. -/
def literal (v : Value) : List Char :=
  match renderLiteral v with
  | .ok s => s.toList
  | .error _ => []

/-- A value that has a literal. -/
def Renderable (v : Value) : Prop :=
  renderLiteral v = .ok (String.ofList (literal v))

theorem renderable_text (s : String) : Renderable (.text s) := by
  simp [Renderable, literal, renderLiteral, Value.literal?]

theorem renderable_number (n : Number) : Renderable (.number n) := by
  simp [Renderable, literal, renderLiteral, Value.literal?]

@[simp] theorem literal_text (s : String) :
    literal (.text s) = Text.delimited '\'' '\'' s.toList := by
  simp [literal, renderLiteral, Value.literal?]

@[simp] theorem literal_number (n : Number) : literal (.number n) = n.text := by
  simp [literal, renderLiteral, Value.literal?]

/-- The parameters by the characters of their names. -/
def named (params : Params) : List (List Char × Value) :=
  params.map fun p => (p.1.toList, p.2)

theorem mem_named {params : Params} {p : String × Value} (h : p ∈ params) :
    (p.1.toList, p.2) ∈ named params :=
  List.mem_map.2 ⟨p, h, rfl⟩

/-- Parameters whose values are all of one kind. -/
def valued {α : Type} (kind : α → Value) (params : List (String × α)) : Params :=
  params.map fun p => (p.1, kind p.2)

theorem renderable_valued {α : Type} {kind : α → Value} (h : ∀ a, Renderable (kind a))
    (params : List (String × α)) : ∀ p ∈ valued kind params, Renderable p.2 := by
  intro p hp
  obtain ⟨q, -, rfl⟩ := List.mem_map.1 hp
  exact h q.2

theorem literals_eq_ok {params : Params} (h : ∀ p ∈ params, Renderable p.2) :
    literals params = .ok ((named params).map (Prod.map id literal)) := by
  unfold literals
  induction params with
  | nil => rfl
  | cons p params ih =>
    have hp : renderLiteral p.2 = .ok (String.ofList (literal p.2)) := h p List.mem_cons_self
    rw [List.mapM_cons, hp, ih fun q hq => h q (List.mem_cons_of_mem p hq)]
    simp [named, bind, Except.bind, pure, Except.pure]

/-! ## The result of binding -/

/-- The template cut at the longest tokens of its parameters. -/
def cut (sql : String) (params : Params) : List (Piece Value) :=
  pieces (byLength (named params)) sql.toList

/-- The text of a cut with each token replaced by the literal of its value. -/
def inserted (ps : List (Piece Value)) : List Char :=
  fill (fun _ value => literal value) ps

theorem cut_longestCut (sql : String) (params : Params) :
    LongestCut (named params) sql.toList (cut sql params) :=
  pieces_longestCut _ _

@[simp] theorem source_cut (sql : String) (params : Params) :
    source (cut sql params) = sql.toList :=
  (cut_longestCut sql params).source_eq

theorem cut_nil (sql : String) : cut sql [] = sql.toList.map .copied := by
  rw [cut, named, List.map_nil, byLength, List.mergeSort_nil, pieces_nil]

/-- The tokens of a cut are those of parameters, with their values. -/
theorem mem_of_bound_mem_cut {sql : String} {params : Params} {name : List Char} {value : Value}
    (h : .bound name value ∈ cut sql params) : (String.ofList name, value) ∈ params := by
  obtain ⟨before, after, hsplit⟩ := List.append_of_mem h
  have hsuffix : .bound name value :: after <:+ cut sql params := ⟨before, hsplit.symm⟩
  obtain ⟨p, hp, hpair⟩ := List.mem_map.1 ((cut_longestCut sql params).mem _ _ _ hsuffix)
  cases hpair
  simpa using hp

theorem exists_of_bound_mem_cut {α : Type} {kind : α → Value} {sql : String}
    {params : List (String × α)} {name : List Char} {value : Value}
    (h : .bound name value ∈ cut sql (valued kind params)) :
    ∃ a, (String.ofList name, a) ∈ params ∧ value = kind a := by
  obtain ⟨q, hq, hpair⟩ := List.mem_map.1 (mem_of_bound_mem_cut h)
  obtain ⟨hname, rfl⟩ := Prod.mk.inj hpair
  exact ⟨q.2, hname ▸ hq, rfl⟩

theorem pieces_literals (sql : String) (params : Params) :
    pieces (byLength ((named params).map (Prod.map id literal))) sql.toList =
      (cut sql params).map (Piece.map literal) := by
  rw [byLength_map, pieces_map, cut]

theorem unused_map {β γ : Type} (g : β → γ) (params : Params) (ps : List (Piece β)) :
    unused params (ps.map (Piece.map g)) = unused params ps := by
  rw [unused, taken_map, unused]

theorem unresolved_map {β γ : Type} (g : β → γ) (ps : List (Piece β)) :
    unresolved (ps.map (Piece.map g)) = unresolved ps := by
  rw [unresolved, blanked, fill_map, unresolved, blanked]

/-- The result of binding values that all have literals: strict binding refuses a query with an
unused parameter or an unresolved placeholder, and otherwise both modes insert the literals. -/
theorem bindParameters_result {params : Params} (h : ∀ p ∈ params, Renderable p.2) (sql : String)
    (strict : Bool) :
    (bindParameters sql params strict).result =
      if strict ∧ ¬ (unused params (cut sql params) = [] ∧ unresolved (cut sql params) = []) then
        .error (.query (.ofMismatch (unused params (cut sql params))
          (unresolved (cut sql params))))
      else .ok (String.ofList (inserted (cut sql params))) := by
  cases params with
  | nil =>
    have hleft : unresolved (cut sql []) = findPlaceholders sql := by
      rw [unresolved, blanked, cut_nil, fill_copies, findPlaceholders]
    have hinserted : inserted (cut sql []) = sql.toList := by
      rw [inserted, cut_nil, fill_copies]
    rw [hleft, hinserted, String.ofList_toList]
    by_cases hs : strict = true <;> by_cases hl : findPlaceholders sql = [] <;>
      simp [bindParameters, unused, hs, hl, Outcome.raise, Outcome.fail]
  | cons p params =>
    have hfilled : filled ((cut sql (p :: params)).map (Piece.map literal)) =
        inserted (cut sql (p :: params)) := by
      rw [filled, fill_map, inserted]
    unfold bindParameters
    rw [if_neg (by simp), literals_eq_ok h, Outcome.ofExcept,
      Outcome.bind_ok (a := (named (p :: params)).map (Prod.map id literal)) rfl]
    simp only [pieces_literals, unused_map, unresolved_map, hfilled]
    have hrefused : ∀ us vs : List String, (strict && !(us.isEmpty && vs.isEmpty)) = true ↔
        strict = true ∧ ¬ (us = [] ∧ vs = []) := by
      intro us vs
      cases strict <;> cases us <;> simp
    simp only [hrefused]
    split <;> rfl

theorem nodup_named {params : Params} (hnames : (params.map Prod.fst).Nodup) :
    ((named params).map Prod.fst).Nodup := by
  have hfst : (named params).map Prod.fst = (params.map Prod.fst).map String.toList := by
    simp [named]
  rw [hfst]
  exact hnames.map fun _ _ => String.toList_injective

/-- There is no other cut at the longest tokens. -/
theorem eq_cut {sql : String} {params : Params} (hnames : (params.map Prod.fst).Nodup)
    {qs : List (Piece Value)} (h : LongestCut (named params) sql.toList qs) :
    qs = cut sql params :=
  h.unique (nodup_named hnames) (cut_longestCut sql params)

/-! ## Lenient binding -/

/-- Lenient binding inserts the literals. -/
theorem lenient_result {params : Params} (h : ∀ p ∈ params, Renderable p.2) (sql : String) :
    (bindParameters sql params false).result =
      .ok (String.ofList (inserted (cut sql params))) := by
  rw [bindParameters_result h, if_neg (by simp)]

/-- **Lenient binding cuts at the longest tokens.** The template has exactly one cut into tokens
and copied characters in which every token is the longest that begins at its place and none
begins at a copied character, and the bound text is that cut with the literals for the tokens.
The places and the tokens are those of the template: no literal has a part in the cut. -/
theorem bindParameters_longestCut (sql : String) (params : Params)
    (hnames : (params.map Prod.fst).Nodup) (hvalues : ∀ p ∈ params, Renderable p.2) :
    ∃ ps : List (Piece Value),
      LongestCut (named params) sql.toList ps ∧
      (∀ qs, LongestCut (named params) sql.toList qs → qs = ps) ∧
      (bindParameters sql params false).result = .ok (String.ofList (inserted ps)) := by
  exact ⟨cut sql params, cut_longestCut sql params, fun _ => eq_cut hnames,
    lenient_result hvalues sql⟩

/-- Names that are prefixes of each other, one of them empty, and a value that holds a token. -/
theorem longestCut_overlapping :
    ∃ ps : List (Piece Value),
      LongestCut (named [("id", .number (.int 7)), ("idx", .text ":id"), ("", .text "x")])
        ":idx, :id, ::".toList ps ∧
      (bindParameters ":idx, :id, ::"
        [("id", .number (.int 7)), ("idx", .text ":id"), ("", .text "x")] false).result =
          .ok (String.ofList (inserted ps)) := by
  obtain ⟨ps, hcut, -, hresult⟩ := bindParameters_longestCut ":idx, :id, ::"
    [("id", .number (.int 7)), ("idx", .text ":id"), ("", .text "x")] (by decide)
    (by simp [renderable_text, renderable_number])
  exact ⟨ps, hcut, hresult⟩

end Binding

end QueryBook
