import QueryBook.Proofs.Binding.Failure
import QueryBook.Store

/-!
# Looking up names

What looking up results in, for a store without queries to look in and for one with them: a name is
looked up among the queries of the current path (`result_byName`), a text that is no name stands for
itself (`result_byNameOrText`), and either is what parameters are bound in (`result_boundQuery`).
-/

namespace QueryBook

namespace Store

/-! ## Without a current path -/

section

variable {s : Store} (h : s.currentQueries? = none)

include h

theorem result_byName_of_none (name : String) :
    (s.byName name).result = .error (.query (.noActiveFile none)) := by
  rw [byName, h]
  rfl

theorem result_byNameOrText_of_none (text : String) :
    (s.byNameOrText text).result = .error (.query (.noActiveFile none)) := by
  simp only [byNameOrText, result_byName_of_none h]

theorem result_boundQuery_of_none (settings : Settings) (text : String) (params : Params)
    (strict : Option Bool) :
    (s.boundQuery settings text params strict).result = .error (.query (.noActiveFile none)) := by
  rw [boundQuery, Outcome.bind_error (result_byNameOrText_of_none h text)]

end

/-! ## With a current path -/

section

variable {s : Store} {path : String} {queries : QuerySet}
  (h : s.currentQueries? = some (path, queries))

include h

theorem result_byName (name : String) :
    (s.byName name).result =
      match queries.find? name with
      | some sql => .ok sql
      | none => .error (.query (.notFound name path)) := by
  rw [byName, h]
  cases hsql : queries.find? name with
  | none => simp only [hsql]; rfl
  | some sql => simp only [hsql]; rfl

theorem result_byNameOrText (text : String) :
    (s.byNameOrText text).result = .ok ((queries.find? text).getD text) := by
  have hfound := result_byName h text
  cases hsql : queries.find? text with
  | none =>
    rw [hsql] at hfound
    simp [byNameOrText, hfound]
  | some sql =>
    rw [hsql] at hfound
    simp [byNameOrText, hfound]

theorem result_boundQuery (settings : Settings) (text : String) (params : Params)
    (strict : Option Bool) :
    (s.boundQuery settings text params strict).result =
      (bindParameters ((queries.find? text).getD text) params
        (strict.getD settings.strictBinding)).result := by
  rw [boundQuery, Outcome.bind_ok (result_byNameOrText h text)]

end

end Store

end QueryBook
