import Mathlib.Data.List.DropRight
import QueryBook.Text.Blank

/-!
# Trimmed texts

What is cut off a text on its right is blank, and nothing else is: `exists_eq_trimRight_append`
and `trimRight_concat`. From it follows where the trimming of two texts in a row ends, in the
second of them (`trimRight_append_of_ne_nil`) or in the first (`trimRight_append_of_blank`). A text
is `Tight` if no run of blanks in it is other than one space, and `Tidy` if besides it neither
begins nor ends with one.
-/

namespace QueryBook.Text

/-- All characters of a text are blank. -/
def AllBlank (cs : List Char) : Prop :=
  ∀ c ∈ cs, isBlank c = true

/-- A text that does not begin with a blank. -/
def StartsSolid (cs : List Char) : Prop :=
  ∀ c ∈ cs.head?, isBlank c = false

theorem startsSolid_cons {c : Char} {cs : List Char} (h : isBlank c = false) :
    StartsSolid (c :: cs) := by
  rintro d ⟨⟩
  exact h

theorem dropWhile_of_startsSolid {cs : List Char} (h : StartsSolid cs) :
    cs.dropWhile isBlank = cs := by
  cases cs with
  | nil => rfl
  | cons c cs => exact List.dropWhile_cons_of_neg (by simp [h c rfl])

theorem trimRight_isPrefix (cs : List Char) : trimRight cs <+: cs :=
  List.rdropWhile_prefix isBlank cs

/-- A trimmed text does not end with a blank. -/
theorem isBlank_getLast?_trimRight (cs : List Char) :
    ∀ c ∈ (trimRight cs).getLast?, isBlank c = false := by
  intro c hc
  obtain ⟨hne, rfl⟩ := List.mem_getLast?_eq_getLast hc
  exact Bool.eq_false_iff.2 (List.rdropWhile_last_not isBlank cs hne)

theorem trimRight_eq_nil {cs : List Char} : trimRight cs = [] ↔ AllBlank cs :=
  List.rdropWhile_eq_nil_iff

/-- A text is what trimming leaves of it and blanks behind that. -/
theorem exists_eq_trimRight_append (cs : List Char) :
    ∃ gap, AllBlank gap ∧ cs = trimRight cs ++ gap := by
  refine ⟨(cs.reverse.takeWhile isBlank).reverse, fun c hc => ?_, ?_⟩
  · exact List.mem_takeWhile_imp (List.mem_reverse.1 hc)
  · rw [trimRight, ← List.reverse_append, List.takeWhile_append_dropWhile, List.reverse_reverse]

theorem trimRight_concat {c : Char} (cs : List Char) (h : isBlank c = false) :
    trimRight (cs ++ [c]) = cs ++ [c] :=
  List.rdropWhile_concat_neg isBlank cs c (by simp [h])

theorem trimRight_of_ends_solid {cs : List Char} (h : ∀ c ∈ cs.getLast?, isBlank c = false) :
    trimRight cs = cs :=
  List.rdropWhile_eq_self_iff.2 fun hne => by simp [h _ (List.getLast?_eq_getLast_of_ne_nil hne)]

theorem trimRight_append_of_blank (us : List Char) {gap : List Char} (h : AllBlank gap) :
    trimRight (us ++ gap) = trimRight us := by
  have hgap : ∀ c ∈ gap.reverse, isBlank c = true := fun c hc => h c (List.mem_reverse.1 hc)
  rw [trimRight, List.reverse_append, List.dropWhile_append_of_pos hgap, trimRight]

theorem trimRight_append_of_ne_nil (us : List Char) {vs : List Char} (h : trimRight vs ≠ []) :
    trimRight (us ++ vs) = us ++ trimRight vs := by
  obtain ⟨gap, hgap, hvs⟩ := exists_eq_trimRight_append vs
  have hlast : isBlank ((trimRight vs).getLast h) = false :=
    Bool.eq_false_iff.2 (List.rdropWhile_last_not isBlank vs h)
  rw [hvs, ← List.append_assoc, trimRight_append_of_blank _ hgap, trimRight_append_of_blank _ hgap,
    ← List.dropLast_append_getLast h, ← List.append_assoc, trimRight_concat _ hlast,
    trimRight_concat _ hlast, List.append_assoc]

/-! ## Tight texts -/

/-- Every run of blanks of a text is exactly one space. -/
def Tight : List Char → Prop
  | [] => True
  | c :: cs => (isBlank c = true → c = ' ' ∧ StartsSolid cs) ∧ Tight cs

theorem tight_cons_of_solid {c : Char} {cs : List Char} (hc : isBlank c = false) (h : Tight cs) :
    Tight (c :: cs) :=
  ⟨fun hblank => absurd hblank (Bool.eq_false_iff.1 hc), h⟩

theorem Tight.space_cons {cs : List Char} (h : Tight cs) (hstart : StartsSolid cs) :
    Tight (' ' :: cs) :=
  ⟨fun _ => ⟨rfl, hstart⟩, h⟩

theorem StartsSolid.of_append {us vs : List Char} (h : StartsSolid (us ++ vs)) :
    StartsSolid us := by
  cases us with
  | nil => rintro c ⟨⟩
  | cons => exact h

theorem Tight.left_of_append {us vs : List Char} (h : Tight (us ++ vs)) : Tight us := by
  induction us with
  | nil => trivial
  | cons u us ih =>
    exact ⟨fun hblank => ⟨(h.1 hblank).1, (h.1 hblank).2.of_append⟩, ih h.2⟩

theorem Tight.right_of_append {us vs : List Char} (h : Tight (us ++ vs)) : Tight vs := by
  induction us with
  | nil => exact h
  | cons u us ih => exact ih h.2

/-! ## Tidy texts -/

/-- Every blank of a text is a space between two characters that are no blanks. -/
def Tidy (cs : List Char) : Prop :=
  ∀ us c vs, cs = us ++ c :: vs → isBlank c = true →
    c = ' ' ∧ (∃ b ∈ us.getLast?, isBlank b = false) ∧ ∃ d ∈ vs.head?, isBlank d = false

/-- A tight text without blanks at its ends is tidy. -/
theorem Tight.tidy {cs : List Char} (h : Tight cs) (hstart : StartsSolid cs)
    (hend : ∀ c ∈ cs.getLast?, isBlank c = false) : Tidy cs := by
  rintro us c vs rfl hc
  obtain ⟨hspace, hsolid⟩ := h.right_of_append.1 hc
  refine ⟨hspace, ?_, ?_⟩
  · rcases List.eq_nil_or_concat us with rfl | ⟨us, b, rfl⟩
    · simp [hstart c rfl] at hc
    · refine ⟨b, by simp, Bool.eq_false_iff.2 fun hb => ?_⟩
      rw [List.concat_eq_append, List.append_assoc] at h
      have hnext := (h.right_of_append.1 hb).2 c rfl
      simp [hnext] at hc
  · cases vs with
    | nil => simp [hend c (by simp)] at hc
    | cons d vs => exact ⟨d, rfl, hsolid d rfl⟩

end QueryBook.Text
