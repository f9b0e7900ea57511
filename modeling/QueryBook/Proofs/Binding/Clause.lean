import QueryBook.Binding.Clause
import QueryBook.Proofs.Binding.Guard
import QueryBook.Proofs.Binding.Occurrence

/-!
# Bind names and tokens

A text clause takes whole word runs behind a colon as bind names, binding takes the longest token
anywhere. A parameter of a clause is one of its bind names (`bound_of_bindClause`), so it is a word,
and a token of words is taken whole wherever a word run behind a colon is named like one. What a
clause accepts is therefore accepted as literals, parameter by parameter and place by place
(`clause_params_bound_whole`).
-/

namespace QueryBook

open Text Template Binding

namespace TextClause

theorem bindAt?_eq_some {before : Option Char} {c : Char} {cs name : List Char} :
    bindAt? before c cs = some name ↔
      c = ':' ∧ opensAfter before = true ∧ cs.takeWhile isWordChar = name ∧ name ≠ [] ∧
        closesBefore (cs.dropWhile isWordChar).head? = true := by
  simp only [bindAt?, Bool.and_eq_true, beq_iff_eq]
  split
  · next h =>
    obtain ⟨⟨⟨rfl, hopens⟩, hne⟩, hcloses⟩ := h
    simp only [Option.some.injEq, hopens, hcloses, true_and, and_true]
    refine ⟨?_, fun h => h.1⟩
    rintro rfl
    exact ⟨rfl, by simpa using hne⟩
  · next h =>
    simp only [reduceCtorEq, false_iff]
    rintro ⟨rfl, hopens, rfl, hne, hcloses⟩
    exact h ⟨⟨⟨rfl, hopens⟩, by simpa using hne⟩, hcloses⟩

/-- The bind names of a query are those of the places where one begins. -/
theorem mem_bindNames {name sql : String} :
    name ∈ bindNames sql ↔
      ∃ us c vs, sql.toList = us ++ c :: vs ∧ bindAt? us.getLast? c vs = some name.toList := by
  have hsearch : ∀ ns, ns ∈ bindOccurrences none sql.toList ↔
      ∃ us c vs, sql.toList = us ++ c :: vs ∧ bindAt? (us.getLast?.or none) c vs = some ns :=
    fun ns => Placeholder.mem_search (fun _ => rfl) (fun _ _ _ => rfl)
  simp only [bindNames, List.mem_eraseDups, List.mem_map, hsearch, Option.or_none]
  constructor
  · rintro ⟨ns, hns, rfl⟩
    rwa [String.toList_ofList]
  · exact fun h => ⟨name.toList, h, String.ofList_toList⟩

/-- A clause is made only of parameters that the query has bind names for. -/
theorem bound_of_bindClause {α : Type} {sql : String} {params : List (String × α)}
    {clause : TextClause α} (h : bindClause sql params = .ok clause) :
    ∀ p ∈ params, p.1 ∈ bindNames sql := by
  simp only [bindClause] at h
  split at h
  · cases h
  · cases h
  · next hfound => simpa [List.find?_eq_none] using hfound

end TextClause

open TextClause

section

variable {sql : String} {params : Params}

/-- Parameters that the query has bind names for are words. -/
theorem isWordChar_of_bindNames (h : ∀ p ∈ params, p.1 ∈ bindNames sql) :
    ∀ p ∈ named params, ∀ c ∈ p.1, isWordChar c = true := by
  intro p hp c hc
  obtain ⟨q, hq, rfl⟩ := List.mem_map.1 hp
  obtain ⟨us, d, vs, -, hat⟩ := mem_bindNames.1 (h q hq)
  obtain ⟨-, -, hrun, -⟩ := bindAt?_eq_some.1 hat
  exact List.mem_takeWhile_imp (hrun ▸ hc)

/-- A bind name that is a parameter is one piece of the cut. -/
theorem bind_taken_whole (h : ∀ p ∈ params, p.1 ∈ bindNames sql)
    (hnames : (params.map Prod.fst).Nodup) {us vs name : List Char} {value : Value}
    (hsql : sql.toList = us ++ ':' :: vs) (hat : bindAt? us.getLast? ':' vs = some name)
    (hmem : (String.ofList name, value) ∈ params) :
    ∃ before after, cut sql params = before ++ .bound name value :: after ∧
      us = source before ∧ vs = name ++ source after := by
  obtain ⟨-, -, rfl, -⟩ := bindAt?_eq_some.1 hat
  have hcut := cut_longestCut sql params
  rw [hsql] at hcut
  have hnamed : (vs.takeWhile isWordChar, value) ∈ named params := by
    simpa using mem_named hmem
  obtain ⟨before, value', after, hsplit, hus, hvs, hmem'⟩ :=
    hcut.whole_run (isWordChar_of_bindNames h) hnamed
  obtain ⟨q, hq, hpair⟩ := List.mem_map.1 hmem'
  obtain ⟨hname, rfl⟩ := Prod.mk.inj hpair
  have heq : q = (String.ofList (vs.takeWhile isWordChar), value) :=
    List.inj_on_of_nodup_map hnames hq hmem (by rw [← hname, String.ofList_toList])
  subst heq
  exact ⟨before, after, hsplit, hus, hvs⟩

/-- Strict binding misses no parameter that the query has a bind name for. -/
theorem missed_eq_nil (h : ∀ p ∈ params, p.1 ∈ bindNames sql)
    (hnames : (params.map Prod.fst).Nodup) : missed params (cut sql params) = [] := by
  rw [← unused_eq_missed, unused, List.filter_eq_nil_iff]
  intro name hname
  obtain ⟨p, hp, rfl⟩ := List.mem_map.1 hname
  obtain ⟨us, c, vs, hsql, hat⟩ := mem_bindNames.1 (h p hp)
  obtain ⟨rfl, -⟩ := bindAt?_eq_some.1 hat
  have hmem : (String.ofList p.1.toList, p.2) ∈ params := by simpa using hp
  obtain ⟨before, after, hsplit, -⟩ := bind_taken_whole h hnames hsql hat hmem
  have htaken : p.1.toList ∈ taken (cut sql params) := mem_taken.2 ⟨p.2, by simp [hsplit]⟩
  simp [htaken]

end

/-- **What a clause accepts is bound whole.** If a text clause of a query can be made with some
parameters, strict binding misses none of them: it returns the lenient text or reports placeholders
left over and nothing else. Every bind name of the clause that is a parameter is one piece of the
cut of the query at its longest tokens, so that the bound text has that parameter's literal for the
whole of it, between the texts of what stands before and behind. -/
theorem clause_params_bound_whole (sql : String) (params : Params) (clause : TextClause Value)
    (hclause : bindClause sql params = .ok clause) (hnames : (params.map Prod.fst).Nodup)
    (hvalues : ∀ p ∈ params, Renderable p.2) :
    ((bindParameters sql params true).result = (bindParameters sql params false).result ∨
      ∃ left, left ≠ [] ∧
        (bindParameters sql params true).result = .error (.query (.binding [] left))) ∧
    ∀ us vs name value, sql.toList = us ++ ':' :: vs → bindAt? us.getLast? ':' vs = some name →
      (String.ofList name, value) ∈ params →
        ∃ before after,
          LongestCut (named params) sql.toList (before ++ .bound name value :: after) ∧
          us = source before ∧ vs = name ++ source after ∧
          (bindParameters sql params false).result =
            .ok (String.ofList (inserted before ++ literal value ++ inserted after)) := by
  have hbinds := bound_of_bindClause hclause
  have hlenient := lenient_result hvalues sql
  refine ⟨?_, fun us vs name value hsql hat hmem => ?_⟩
  · by_cases hrefused : Refused params (cut sql params)
    · have hmissed := missed_eq_nil hbinds hnames
      refine .inr ⟨leftOver (cut sql params), fun hnil => ?_, ?_⟩
      · exact refused_iff.1 hrefused ⟨hmissed, hnil⟩
      · rw [result_of_refused hvalues hrefused, hmissed, QueryError.ofMismatch, List.mergeSort_nil]
    · exact .inl ((result_of_not_refused hvalues hrefused).trans hlenient.symm)
  · obtain ⟨before, after, hsplit, hus, hvs⟩ := bind_taken_whole hbinds hnames hsql hat hmem
    refine ⟨before, after, hsplit ▸ cut_longestCut sql params, hus, hvs, ?_⟩
    rw [hlenient, hsplit]
    simp [inserted]

/-- A bind name that begins with another one, with a value that looks like a token. -/
theorem longer_bind_name_whole :
    ∃ clause : TextClause Value,
      bindClause ":idx, :id" [("id", .number (.int 7)), ("idx", .text ":id")] = .ok clause ∧
      ∃ before after : List (Piece Value), [] = source before ∧ ", :id".toList = source after ∧
        (bindParameters ":idx, :id" [("id", .number (.int 7)), ("idx", .text ":id")] false).result =
          .ok (String.ofList (inserted before ++ "':id'".toList ++ inserted after)) := by
  obtain ⟨clause, hclause⟩ : ∃ clause : TextClause Value,
      bindClause ":idx, :id" [("id", .number (.int 7)), ("idx", .text ":id")] = .ok clause :=
    ⟨_, rfl⟩
  obtain ⟨-, hwhole⟩ := clause_params_bound_whole ":idx, :id"
    [("id", .number (.int 7)), ("idx", .text ":id")] _ hclause (by decide)
    (by simp [renderable_text, renderable_number])
  obtain ⟨before, after, -, hus, hvs, hresult⟩ := hwhole [] "idx, :id".toList "idx".toList
    (.text ":id") rfl (by decide) (by simp)
  have hrest : "idx".toList ++ ", :id".toList = "idx".toList ++ source after := hvs
  exact ⟨_, hclause, before, after, hus, List.append_cancel_left hrest, hresult⟩

end QueryBook
