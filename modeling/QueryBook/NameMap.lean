/-!
# Maps that remember the order of their names

A `NameMap` gives each of its names one value and lists its names in the order in which they
were first inserted. Inserting a name again replaces its value and keeps its place. That the
names are distinct is part of the type.
-/

namespace QueryBook

/-- A finite map from names to values, in order of first insertion. -/
structure NameMap (β : Type) where
  entries : List (String × β)
  nodup : (entries.map (·.1)).Nodup

namespace NameMap

variable {β : Type}

/-- The map without names. -/
def empty : NameMap β :=
  ⟨[], .nil⟩

instance : Inhabited (NameMap β) :=
  ⟨empty⟩

/-- The names of the map, in order of first insertion. -/
def names (m : NameMap β) : List String :=
  m.entries.map (·.1)

/-- The value of a name. -/
def find? (m : NameMap β) (name : String) : Option β :=
  m.entries.lookup name

def contains (m : NameMap β) (name : String) : Bool :=
  (m.find? name).isSome

def size (m : NameMap β) : Nat :=
  m.entries.length

/-- The entries with the value of one name replaced, or the name put at the end. -/
def insertEntry (name : String) (value : β) : List (String × β) → List (String × β)
  | [] => [(name, value)]
  | e :: es => if e.1 = name then (name, value) :: es else e :: insertEntry name value es

theorem map_fst_insertEntry (name : String) (value : β) (es : List (String × β)) :
    (insertEntry name value es).map (·.1) =
      if name ∈ es.map (·.1) then es.map (·.1) else es.map (·.1) ++ [name] := by
  induction es with
  | nil => rfl
  | cons e es ih =>
    by_cases h : e.1 = name
    · simp [insertEntry, h]
    · have h' : ¬ name = e.1 := fun hn => h hn.symm
      simp only [insertEntry, h, if_false, List.map_cons, ih, List.mem_cons, h', false_or]
      split <;> simp

/-- The map with one name set to a value. -/
def insert (m : NameMap β) (name : String) (value : β) : NameMap β where
  entries := insertEntry name value m.entries
  nodup := by
    rw [map_fst_insertEntry]
    split
    · exact m.nodup
    · rename_i h
      exact List.nodup_append.2 ⟨m.nodup, by simp, by
        intro a ha b hb hab
        simp only [List.mem_singleton] at hb
        exact h (hb ▸ hab ▸ ha)⟩

/-- A new name goes to the end; a known one keeps its place. -/
theorem names_insert (m : NameMap β) (name : String) (value : β) :
    (m.insert name value).names = if name ∈ m.names then m.names else m.names ++ [name] :=
  map_fst_insertEntry name value m.entries

theorem lookup_entry (name : String) (value : β) (es : List (String × β)) (x : String) :
    ((name, value) :: es).lookup x = if x = name then some value else es.lookup x := by
  by_cases h : x = name
  · simp [h]
  · have hb : (x == name) = false := by simpa using h
    simp [List.lookup_cons, hb, h]

theorem lookup_insertEntry (name : String) (value : β) (es : List (String × β)) (x : String) :
    (insertEntry name value es).lookup x = if x = name then some value else es.lookup x := by
  induction es with
  | nil => simp [insertEntry, lookup_entry]
  | cons e es ih =>
    obtain ⟨key, old⟩ := e
    by_cases h : key = name
    · by_cases hx : x = name <;> simp [insertEntry, lookup_entry, h, hx]
    · by_cases hx : x = key
      · simp [insertEntry, h, hx]
      · simp [insertEntry, lookup_entry, h, hx, ih]

/-- The inserted name has the new value, every other name the one it had. -/
theorem find?_insert (m : NameMap β) (name : String) (value : β) (x : String) :
    (m.insert name value).find? x = if x = name then some value else m.find? x :=
  lookup_insertEntry name value m.entries x

@[simp] theorem find?_empty (x : String) : (empty : NameMap β).find? x = none := rfl

@[simp] theorem names_empty : (empty : NameMap β).names = [] := rfl

end NameMap

end QueryBook
