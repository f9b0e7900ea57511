import QueryBook.Binding.Bind

/-!
# Failures of binding

Binding fails in two ways only: a value has no literal, or strict binding finds a mismatch
(`bindParameters_error`). The values come first: the failure of the first value without a literal
is that of binding, whatever the mode and the query (`result_of_literals_error`). The lack of a
current path is no failure of binding (`bindParameters_ne_noActiveFile`), so that it always comes
from a lookup.
-/

namespace QueryBook

/-! ## Values without a literal -/

theorem renderLiteral_error {v : Value} {e : Failure} (h : renderLiteral v = .error e) :
    ∃ k, e = .unrenderable k := by
  rw [renderLiteral] at h
  split at h
  · cases h
  · next k _ => cases h; exact ⟨k, rfl⟩

/-- The literals of parameters, one after the other. -/
theorem literals_cons (p : String × Value) (params : Params) :
    Binding.literals (p :: params) =
      match renderLiteral p.2, Binding.literals params with
      | .error e, _ => .error e
      | .ok _, .error e => .error e
      | .ok literal, .ok literals => .ok ((p.1.toList, literal.toList) :: literals) := by
  rw [Binding.literals, List.mapM_cons, ← Binding.literals]
  cases renderLiteral p.2 with
  | error e => rfl
  | ok literal => cases Binding.literals params <;> rfl

theorem literals_error {params : Params} {e : Failure} (h : Binding.literals params = .error e) :
    ∃ k, e = .unrenderable k := by
  induction params with
  | nil => cases h
  | cons p params ih =>
    rw [literals_cons] at h
    split at h
    · next hvalue => cases h; exact renderLiteral_error hvalue
    · next hrest => cases h; exact ih hrest
    · cases h

/-- The literals fail exactly if a value is neither a text nor a number. -/
theorem exists_literals_error_iff {params : Params} :
    (∃ e, Binding.literals params = .error e) ↔ ∃ p ∈ params, ∃ k, p.2 = .other k := by
  induction params with
  | nil => simp [Binding.literals, pure, Except.pure]
  | cons p params ih =>
    obtain ⟨name, s | n | k⟩ := p
    -- A value with a literal leaves the failure to the rest.
    case other => simp [literals_cons, renderLiteral, Value.literal?]
    all_goals
      rw [literals_cons]
      simp only [renderLiteral, Value.literal?, List.mem_cons, exists_eq_or_imp, reduceCtorEq,
        exists_false, false_or, ← ih]
      cases Binding.literals params <;> simp

/-! ## The result of binding -/

/-- The values come first, whatever the mode and the query. -/
theorem result_of_literals_error {params : Params} {e : Failure}
    (h : Binding.literals params = .error e) (sql : String) (strict : Bool) :
    (bindParameters sql params strict).result = .error e := by
  cases params with
  | nil => cases h
  | cons p params => rw [bindParameters, if_neg (by simp), Outcome.bind_error (e := e) h]

/-- With literals for all values, binding fails for a mismatch only. -/
theorem bindParameters_error_of_literals {sql : String} {params : Params} {strict : Bool}
    {e : Failure} {literals : List (List Char × List Char)}
    (hliterals : Binding.literals params = .ok literals)
    (h : (bindParameters sql params strict).result = .error e) :
    ∃ unused unresolved, e = .query (.ofMismatch unused unresolved) := by
  rw [bindParameters] at h
  split at h
  · simp only at h
    split at h
    · cases h; exact ⟨_, _, rfl⟩
    · cases h
  · rw [Outcome.bind_ok (a := literals) hliterals] at h
    simp only at h
    split at h
    · cases h; exact ⟨_, _, rfl⟩
    · cases h

/-- Binding fails for a value or a mismatch only. -/
theorem bindParameters_error {sql : String} {params : Params} {strict : Bool} {e : Failure}
    (h : (bindParameters sql params strict).result = .error e) :
    (∃ k, e = .unrenderable k) ∨
      ∃ unused unresolved, e = .query (.ofMismatch unused unresolved) := by
  cases hliterals : Binding.literals params with
  | error e' =>
    rw [result_of_literals_error hliterals] at h
    cases h
    exact .inl (literals_error hliterals)
  | ok literals => exact .inr (bindParameters_error_of_literals hliterals h)

/-- Binding fails for a value exactly if the literals do. -/
theorem result_eq_unrenderable_iff {sql : String} {params : Params} {strict : Bool} {k : Kind} :
    (bindParameters sql params strict).result = .error (.unrenderable k) ↔
      Binding.literals params = .error (.unrenderable k) := by
  refine ⟨fun h => ?_, fun h => result_of_literals_error h sql strict⟩
  cases hliterals : Binding.literals params with
  | error e =>
    rw [result_of_literals_error hliterals] at h
    cases h
    rfl
  | ok literals =>
    obtain ⟨_, _, hmismatch⟩ := bindParameters_error_of_literals hliterals h
    cases hmismatch

theorem bindParameters_ne_noActiveFile (sql : String) (params : Params) (strict : Bool)
    (note : Option String) :
    (bindParameters sql params strict).result ≠ .error (.query (.noActiveFile note)) := by
  intro h
  rcases bindParameters_error h with ⟨_, hvalue⟩ | ⟨_, _, hmismatch⟩
  · cases hvalue
  · cases hmismatch

end QueryBook
