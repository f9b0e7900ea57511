import Mathlib.Data.List.Induction
import QueryBook.NameMap

/-!
# Maps made by insertions

`ofEntries` inserts entries one after another. Its names are those of the entries, each at its
first place (`names_ofEntries`), and its value at a name is that of the last entry of the name
(`find?_ofEntries`).
-/

namespace QueryBook.NameMap

variable {β : Type}

/-- The map that results from inserting entries in order. -/
def ofEntries (es : List (String × β)) : NameMap β :=
  es.foldl (fun m e => m.insert e.1 e.2) empty

@[simp] theorem ofEntries_nil : ofEntries ([] : List (String × β)) = empty := rfl

@[simp] theorem ofEntries_concat (es : List (String × β)) (e : String × β) :
    ofEntries (es ++ [e]) = (ofEntries es).insert e.1 e.2 :=
  List.foldl_append

/-- Each name stands at the place of its first entry. -/
theorem names_ofEntries (es : List (String × β)) :
    (ofEntries es).names = (es.map (·.1)).eraseDups := by
  induction es using List.reverseRecOn with
  | nil => rfl
  | append_singleton es e ih =>
    rw [ofEntries_concat, names_insert, ih, List.map_append, List.eraseDups_append]
    by_cases h : e.1 ∈ es.map (·.1)
    · rw [if_pos (List.mem_eraseDups.2 h)]
      simp [List.removeAll, h]
    · rw [if_neg (by simpa using h)]
      simp [List.removeAll, h, List.eraseDups_cons]

/-- The names of a map are those with a value. -/
theorem mem_names {m : NameMap β} {name : String} :
    name ∈ m.names ↔ ∃ value, m.find? name = some value := by
  rw [← Option.isSome_iff_exists, find?, List.lookup_isSome_iff, names, List.mem_map]
  exact exists_congr fun e => and_congr_right fun _ => by rw [beq_iff_eq, eq_comm]

theorem contains_iff {m : NameMap β} {name : String} :
    m.contains name = true ↔ name ∈ m.names := by
  rw [contains, mem_names, Option.isSome_iff_exists]

/-- A map grows by the names that it does not have. -/
theorem size_insert (m : NameMap β) (name : String) (value : β) :
    (m.insert name value).size = if m.contains name then m.size else m.size + 1 := by
  have hsize (m : NameMap β) : m.size = m.names.length := (List.length_map _).symm
  rw [hsize, names_insert]
  split
  · next hmem => rw [if_pos (contains_iff.2 hmem), hsize]
  · next hmem => rw [if_neg (mt contains_iff.1 hmem), List.length_append, hsize]; rfl

theorem lookup_map {γ : Type} (f : β → γ) (es : List (String × β)) (name : String) :
    (es.map fun e => (e.1, f e.2)).lookup name = (es.lookup name).map f := by
  induction es with
  | nil => rfl
  | cons e es ih =>
    obtain ⟨key, value⟩ := e
    rw [List.map_cons, lookup_entry, lookup_entry, ih]
    split <;> rfl

/-- A name has the value of its last entry. -/
theorem find?_ofEntries (es : List (String × β)) (name : String) :
    (ofEntries es).find? name = es.reverse.lookup name := by
  induction es using List.reverseRecOn with
  | nil => rfl
  | append_singleton es e ih =>
    rw [ofEntries_concat, find?_insert, ih, List.reverse_concat, lookup_entry]

end QueryBook.NameMap
