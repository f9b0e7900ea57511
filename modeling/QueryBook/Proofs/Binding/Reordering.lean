import QueryBook.Proofs.Binding.Guard

/-!
# The order of parameters

Binding goes through the parameters in their order when it renders them, when it sorts their tokens
and when it lists the unused ones, and yet the order does not show in the result. A cut at the longest
tokens is a cut for any order of the parameters (`LongestCut.perm`), so that all orders have the same
cut (`cut_perm`), and the error lists the unused parameters sorted (`ofMismatch_perm`). Only a value
without a literal is reported by its place: which one of several is named depends on the order, that
one is named does not (`bindParameters_perm`).
-/

namespace QueryBook

open Template

/-- A cut stays one for the same parameters in another order. -/
theorem Template.LongestCut.perm {β : Type} {params params' : List (List Char × β)}
    (hperm : params.Perm params') {text : List Char} {ps : List (Piece β)}
    (h : LongestCut params text ps) : LongestCut params' text ps where
  source_eq := h.source_eq
  mem name value after hs := hperm.mem_iff.1 (h.mem name value after hs)
  longest name value after hs p hp := h.longest name value after hs p (hperm.mem_iff.2 hp)
  gap c after hs p hp := h.gap c after hs p (hperm.mem_iff.2 hp)

namespace Binding

variable {sql : String} {params params' : Params}

theorem cut_perm (hnames : (params.map Prod.fst).Nodup) (hperm : params.Perm params') :
    cut sql params = cut sql params' :=
  eq_cut ((hperm.map _).nodup_iff.1 hnames) ((cut_longestCut sql params).perm (hperm.map _))

/-- The names that a mismatch reports do not depend on their order. -/
theorem ofMismatch_perm {names names' : List String} (hperm : names.Perm names')
    (left : List String) : QueryError.ofMismatch names left = QueryError.ofMismatch names' left := by
  obtain ⟨sorted, heq, hsorted, hnames⟩ := ofMismatch_eq names left
  obtain ⟨sorted', heq', hsorted', hnames'⟩ := ofMismatch_eq names' left
  have hsame : sorted.Perm sorted' := hnames.trans (hperm.trans hnames'.symm)
  rw [heq, heq', hsame.eq_of_pairwise (fun _ _ _ _ => le_antisymm) hsorted hsorted']

/-- A value of another kind fails binding, whatever stands before it. -/
theorem result_of_other (h : ∃ p ∈ params, ∃ k, p.2 = .other k) (sql : String) (strict : Bool) :
    ∃ k, (bindParameters sql params strict).result = .error (.unrenderable k) := by
  obtain ⟨e, he⟩ := exists_literals_error_iff.2 h
  obtain ⟨k, rfl⟩ := literals_error he
  exact ⟨k, result_of_literals_error he sql strict⟩

theorem renderable_of_not_other (h : ¬ ∃ p ∈ params, ∃ k, p.2 = .other k) :
    ∀ p ∈ params, Renderable p.2 := by
  rintro ⟨name, s | n | k⟩ hp
  · exact renderable_text s
  · exact renderable_number n
  · exact absurd ⟨_, hp, k, rfl⟩ h

/-- With literals for all values, the result is the same in any order. -/
theorem result_perm (hnames : (params.map Prod.fst).Nodup) (hperm : params.Perm params')
    (hvalues : ∀ p ∈ params, Renderable p.2) (sql : String) (strict : Bool) :
    (bindParameters sql params strict).result = (bindParameters sql params' strict).result := by
  have hunused : (unused params (cut sql params')).Perm (unused params' (cut sql params')) :=
    (hperm.map _).filter _
  rw [bindParameters_result hvalues,
    bindParameters_result fun p hp => hvalues p (hperm.mem_iff.2 hp), cut_perm hnames hperm,
    ofMismatch_perm hunused]
  have hnil : unused params (cut sql params') = [] ↔ unused params' (cut sql params') = [] := by
    constructor
    · exact fun h => List.perm_nil.1 (h ▸ hunused).symm
    · exact fun h => List.perm_nil.1 (h ▸ hunused)
  simp only [hnil]

end Binding

end QueryBook
