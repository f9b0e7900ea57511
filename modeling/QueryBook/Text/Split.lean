/-!
# Splitting at a separator

`split` cuts a text at every occurrence of one character and `join` puts the parts back
together (`join_split`): the lines of a file, the components of a path, the parts of a dotted
name.
-/

namespace QueryBook.Text

/-- The parts of a text between the separators; a text without one is its only part. -/
def split (sep : Char) : List Char → List (List Char)
  | [] => [[]]
  | c :: cs =>
    if c = sep then [] :: split sep cs
    else
      match split sep cs with
      | [] => [[c]]
      | part :: parts => (c :: part) :: parts

/-- The parts with the separator between them. -/
def join (sep : Char) : List (List Char) → List Char
  | [] => []
  | [part] => part
  | part :: parts => part ++ sep :: join sep parts

theorem split_ne_nil (sep : Char) (cs : List Char) : split sep cs ≠ [] := by
  cases cs with
  | nil => simp [split]
  | cons c cs =>
    by_cases h : c = sep
    · simp [split, h]
    · simp only [split, h, if_false]
      split <;> simp

theorem join_cons_of_ne_nil (sep : Char) (part : List Char) {parts : List (List Char)}
    (h : parts ≠ []) : join sep (part :: parts) = part ++ sep :: join sep parts := by
  cases parts with
  | nil => exact absurd rfl h
  | cons => rfl

theorem join_cons_cons (sep c : Char) (part : List Char) (parts : List (List Char)) :
    join sep ((c :: part) :: parts) = c :: join sep (part :: parts) := by
  cases parts <;> rfl

/-- Splitting loses nothing. -/
theorem join_split (sep : Char) (cs : List Char) : join sep (split sep cs) = cs := by
  induction cs with
  | nil => rfl
  | cons c cs ih =>
    by_cases h : c = sep
    · simp [split, h, join_cons_of_ne_nil sep [] (split_ne_nil sep cs), ih]
    · cases hs : split sep cs with
      | nil => exact absurd hs (split_ne_nil sep cs)
      | cons part parts =>
        rw [hs] at ih
        simp [split, h, hs, join_cons_cons, ih]

/-- The parts hold no separator. -/
theorem notMem_of_mem_split {sep : Char} {cs part : List Char} (h : part ∈ split sep cs) :
    sep ∉ part := by
  induction cs generalizing part with
  | nil =>
    simp only [split, List.mem_singleton] at h
    simp [h]
  | cons c cs ih =>
    by_cases hc : c = sep
    · simp only [split, hc, if_true, List.mem_cons] at h
      rcases h with rfl | h
      · simp
      · exact ih h
    · cases hs : split sep cs with
      | nil => exact absurd hs (split_ne_nil sep cs)
      | cons first parts =>
        simp only [split, hc, if_false, hs, List.mem_cons] at h
        rcases h with rfl | h
        · have := ih (hs ▸ List.mem_cons_self : first ∈ split sep cs)
          simp [this, Ne.symm hc]
        · exact ih (hs ▸ List.mem_cons_of_mem first h)

/-- The parts of a text, as texts. -/
def splitText (sep : Char) (s : String) : List String :=
  (split sep s.toList).map String.ofList

end QueryBook.Text
