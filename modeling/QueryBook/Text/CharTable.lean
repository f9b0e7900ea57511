/-!
# Character tables

A set of characters given as code point ranges. The character classes of this library that
reach beyond ASCII are such tables, each in the module named for its class.
-/

namespace QueryBook

/-- A set of characters as code point ranges, both ends included. -/
abbrev CharTable := List (Nat × Nat)

namespace CharTable

/-- Whether a range of the table holds the character. -/
def contains (t : CharTable) (c : Char) : Bool :=
  t.any fun r => r.1 ≤ c.toNat && c.toNat ≤ r.2

theorem contains_iff (t : CharTable) (c : Char) :
    t.contains c = true ↔ ∃ r ∈ t, r.1 ≤ c.toNat ∧ c.toNat ≤ r.2 := by
  simp [contains, List.any_eq_true]

end CharTable

end QueryBook
