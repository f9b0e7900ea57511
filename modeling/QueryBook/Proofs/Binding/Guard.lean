import Mathlib.Data.String.Basic
import QueryBook.Proofs.Binding.Bound
import QueryBook.Proofs.Binding.Failure
import QueryBook.Proofs.Binding.Placeholder

/-!
# Strict binding guards lenient binding

Strict binding cuts the query as lenient binding does and then decides whether to return the same
text or an error. What it refuses is read off the cut (`Refused`): a parameter that was not taken,
or a placeholder in the text with a space for each token. The error lists exactly these, the
parameters sorted and the placeholders as they appear.
-/

namespace QueryBook

open Template

namespace Binding

/-- The names that the cut does not take. -/
def missed {β : Type} (params : Params) (ps : List (Piece β)) : List String :=
  (params.map Prod.fst).filter fun name => name.toList ∉ taken ps

/-- The placeholders of the text with a space for each token. -/
def leftOver {β : Type} (ps : List (Piece β)) : List String :=
  findPlaceholders (String.ofList (blanked ps))

/-- Some parameter is missed or some placeholder is left over. -/
def Refused {β : Type} (params : Params) (ps : List (Piece β)) : Prop :=
  (∃ p ∈ params, p.1.toList ∉ taken ps) ∨ leftOver ps ≠ []

section

variable {β : Type} {params : Params} {ps : List (Piece β)}

@[simp] theorem unused_eq_missed : unused params ps = missed params ps := by
  simp [unused, missed]

@[simp] theorem unresolved_eq_leftOver : unresolved ps = leftOver ps := by
  rw [leftOver, findPlaceholders, String.toList_ofList, unresolved]

theorem refused_iff : Refused params ps ↔ ¬ (missed params ps = [] ∧ leftOver ps = []) := by
  rw [Refused, not_and_or]
  simp [missed, List.filter_eq_nil_iff]

theorem nodup_leftOver : (leftOver ps).Nodup :=
  Placeholder.nodup_names _

end

theorem result_of_refused {sql : String} {params : Params} (hvalues : ∀ p ∈ params, Renderable p.2)
    (h : Refused params (cut sql params)) :
    (bindParameters sql params true).result =
      .error (.query (.ofMismatch (missed params (cut sql params)) (leftOver (cut sql params)))) := by
  have hresult := bindParameters_result hvalues sql true
  rwa [unused_eq_missed, unresolved_eq_leftOver, if_pos ⟨rfl, refused_iff.1 h⟩] at hresult

theorem result_of_not_refused {sql : String} {params : Params}
    (hvalues : ∀ p ∈ params, Renderable p.2) (h : ¬ Refused params (cut sql params)) :
    (bindParameters sql params true).result = .ok (String.ofList (inserted (cut sql params))) := by
  have hresult := bindParameters_result hvalues sql true
  rwa [unused_eq_missed, unresolved_eq_leftOver, if_neg fun hr => h (refused_iff.2 hr.2)] at hresult

/-- The names that a mismatch reports are sorted and otherwise as given. -/
theorem ofMismatch_eq (names left : List String) :
    ∃ sorted, QueryError.ofMismatch names left = .binding sorted left ∧
      sorted.Pairwise (· ≤ ·) ∧ sorted.Perm names := by
  refine ⟨_, rfl, ?_, List.mergeSort_perm _ _⟩
  have hsorted : (names.mergeSort fun a b => decide (a ≤ b)).Pairwise
      fun a b => decide (a ≤ b) = true :=
    List.pairwise_mergeSort
      (fun _ _ _ hab hbc => by simp only [decide_eq_true_eq] at *; exact le_trans hab hbc)
      (fun a b => by simp only [Bool.or_eq_true, decide_eq_true_eq]; exact le_total a b) names
  exact hsorted.imp of_decide_eq_true

/-- Values with literals are all there is to lenient binding. -/
theorem renderable_of_result {sql : String} {params : Params} {strict : Bool}
    (h : ∀ k, (bindParameters sql params strict).result ≠ .error (.unrenderable k)) :
    ∀ p ∈ params, Renderable p.2 := by
  intro p hp
  obtain ⟨name, s | n | k⟩ := p
  · exact renderable_text s
  · exact renderable_number n
  · obtain ⟨e, he⟩ := exists_literals_error_iff.2 ⟨_, hp, k, rfl⟩
    obtain ⟨k', rfl⟩ := literals_error he
    exact absurd (result_of_literals_error he sql strict) (h k')

end Binding

end QueryBook
