import QueryBook.Proofs.Scan
import QueryBook.Proofs.Text.Trim

/-!
# Characters with their modes

`marked` pairs each character of a text with the mode it is read in. A text can be cut before any
character that is never the second of two read together (`Lone`), and then its marks are those of
the two parts (`marked_append`). Blanks are such characters, and a blank changes the mode only as
the line feed that ends a comment (`single_of_blank`); so a run of blanks stands in one mode. Proofs
about the marks of all texts go by `readingInduction`, which has one case for a character read
alone and one for two read together.
-/

namespace QueryBook.Scan

open Text

/-- Between quotes: text that is kept as it stands. -/
def Mode.isQuoted : Mode → Bool
  | .string | .identifier => true
  | .code | .line | .block => false

def Mode.isComment : Mode → Bool
  | .line | .block => true
  | .code | .string | .identifier => false

/-- The characters of a text that begins in a mode, each with the mode it is read in. -/
def marked (m : Mode) (cs : List Char) : List (Char × Mode) :=
  cs.zip (scan m cs).modes

/-- A character that no character before it is read together with. -/
def Lone (d : Char) : Prop :=
  ∀ (m : Mode) (c : Char), m.pair? c d = none

/-! ## Equations -/

@[simp] theorem marked_nil (m : Mode) : marked m [] = [] := by
  simp [marked]

theorem marked_pair {m here next : Mode} {c d : Char} (h : m.pair? c d = some (here, next))
    (cs : List Char) : marked m (c :: d :: cs) = (c, here) :: (d, here) :: marked next cs := by
  simp [marked, scan_pair h]

theorem marked_single {m : Mode} {c : Char} {cs : List Char}
    (h : ∀ d ∈ cs.head?, m.pair? c d = none) :
    marked m (c :: cs) = (c, (m.single c).1) :: marked (m.single c).2 cs := by
  simp [marked, scan_single h]

@[simp] theorem map_fst_marked (m : Mode) (cs : List Char) :
    (marked m cs).map Prod.fst = cs :=
  List.map_fst_zip (Nat.le_of_eq (length_modes m cs).symm)

@[simp] theorem length_marked (m : Mode) (cs : List Char) :
    (marked m cs).length = cs.length := by
  rw [← List.length_map (f := Prod.fst), map_fst_marked]

/-- A fact about every text and the mode it begins in, from one case for each way to read the
first character. -/
theorem readingInduction {motive : Mode → List Char → Prop} (nil : ∀ m, motive m [])
    (pair : ∀ m c d cs here next, m.pair? c d = some (here, next) → motive next cs →
      motive m (c :: d :: cs))
    (single : ∀ m c cs, (∀ d ∈ cs.head?, m.pair? c d = none) → motive (m.single c).2 cs →
      motive m (c :: cs)) : ∀ m cs, motive m cs
  | m, [] => nil m
  | m, c :: [] =>
    single m c [] (by simp) (readingInduction nil pair single (m.single c).2 [])
  | m, c :: d :: cs =>
    match hpair : m.pair? c d with
    | some (here, next) =>
      pair m c d cs here next hpair (readingInduction nil pair single next cs)
    | none =>
      single m c (d :: cs) (by simp [hpair]) (readingInduction nil pair single (m.single c).2 _)
  termination_by _ cs => cs.length

/-! ## Cuts -/

/-- A text is read up to a lone character as if it ended there. -/
theorem scan_append {d : Char} (hd : Lone d) (vs : List Char) (m : Mode) (us : List Char) :
    scan m (us ++ d :: vs) =
      (scan (scan m us).after (d :: vs)).prepend (scan m us).modes := by
  induction m, us using readingInduction with
  | nil m => simp [Reading.prepend]
  | pair m c e us here next hpair ih =>
    rw [List.cons_append, List.cons_append, scan_pair hpair, scan_pair hpair, ih, prepend_prepend,
      prepend_after, prepend_modes]
  | single m c us halone ih =>
    have halone' : ∀ e ∈ (us ++ d :: vs).head?, m.pair? c e = none := by
      cases us with
      | nil => rintro e ⟨⟩; exact hd m c
      | cons => exact halone
    rw [List.cons_append, scan_single halone', scan_single halone, ih, prepend_prepend,
      prepend_after, prepend_modes]

theorem marked_append {d : Char} (hd : Lone d) (vs : List Char) (m : Mode) (us : List Char) :
    marked m (us ++ d :: vs) = marked m us ++ marked (scan m us).after (d :: vs) := by
  rw [marked, scan_append hd, prepend_modes, List.zip_append (length_modes m us).symm]
  rfl

theorem after_append {d : Char} (hd : Lone d) (vs : List Char) (m : Mode) (us : List Char) :
    (scan m (us ++ d :: vs)).after = (scan (scan m us).after (d :: vs)).after := by
  rw [scan_append hd, prepend_after]

/-! ## Blanks -/

theorem pair?_of_blank {m : Mode} {c d : Char} (h : isBlank d = true) : m.pair? c d = none := by
  refine pair?_eq_none ?_ ?_ ?_ ?_
  all_goals intros; rintro rfl; exact absurd h (by decide)

theorem pair?_blank {m : Mode} {c d : Char} (h : isBlank c = true) : m.pair? c d = none := by
  have hdash : c ≠ '-' := by rintro rfl; exact absurd h (by decide)
  have hslash : c ≠ '/' := by rintro rfl; exact absurd h (by decide)
  have hquote : c ≠ '\'' := by rintro rfl; exact absurd h (by decide)
  have hstar : c ≠ '*' := by rintro rfl; exact absurd h (by decide)
  cases m <;> simp [Mode.pair?, hdash, hslash, hquote, hstar]

theorem lone_of_blank {d : Char} (h : isBlank d = true) : Lone d := fun _ _ => pair?_of_blank h

theorem lone_semicolon : Lone ';' := fun _ _ =>
  pair?_eq_none (fun _ => by decide) (by decide) (fun _ => by decide) (by decide)

/-- Two characters that are read together are not blank. -/
theorem isBlank_of_pair? {m here next : Mode} {c d : Char}
    (h : m.pair? c d = some (here, next)) : isBlank c = false ∧ isBlank d = false := by
  refine ⟨Bool.eq_false_iff.2 fun hc => ?_, Bool.eq_false_iff.2 fun hd => ?_⟩
  · rw [pair?_blank hc] at h
    cases h
  · rw [pair?_of_blank hd] at h
    cases h

/-- A blank keeps the mode, but for the line feed that ends a comment. -/
theorem single_of_blank {m : Mode} {c : Char} (h : isBlank c = true)
    (hline : (c, m) ≠ ('\n', .line)) : m.single c = (m, m) := by
  have hquote : c ≠ '\'' := by rintro rfl; exact absurd h (by decide)
  have hname : c ≠ '"' := by rintro rfl; exact absurd h (by decide)
  cases m with
  | line =>
    have hfeed : c ≠ '\n' := fun hc => hline (by rw [hc])
    simp [Mode.single, hfeed]
  | code | string | identifier | block => simp [Mode.single, hquote, hname]

theorem single_fst_of_blank {m : Mode} {c : Char} (h : isBlank c = true) :
    (m.single c).1 = m := by
  by_cases hline : (c, m) = ('\n', .line)
  · obtain ⟨rfl, rfl⟩ := Prod.mk.inj hline
    rfl
  · rw [single_of_blank h hline]

theorem marked_blank {m : Mode} {c : Char} (h : isBlank c = true) (cs : List Char) :
    marked m (c :: cs) = (c, m) :: marked (m.single c).2 cs := by
  rw [marked_single fun d _ => pair?_blank h, single_fst_of_blank h]

/-- The mode of a blank is the one that the text before it ends in. -/
theorem getElem?_modes_of_blank {m : Mode} {d : Char} (hd : isBlank d = true)
    (us vs : List Char) :
    (scan m (us ++ d :: vs)).modes[us.length]? = some (scan m us).after := by
  have hcut := getElem?_modes_append (scan_append (lone_of_blank hd) vs m us)
    (length_modes m us) 0
  rw [Nat.add_zero] at hcut
  rw [hcut, scan_single fun e _ => pair?_blank hd, prepend_modes, single_fst_of_blank hd]
  rfl

/-- A text is read up to the blanks at its end as if it ended there. -/
theorem marked_append_blanks {m : Mode} {gap : List Char} (h : AllBlank gap) (us : List Char) :
    marked m (us ++ gap) = marked m us ++ marked (scan m us).after gap := by
  cases gap with
  | nil => simp
  | cons d ds => exact marked_append (lone_of_blank (h d List.mem_cons_self)) ds m us

/-- Blanks end in the mode they begin in, or behind a comment of a line. -/
theorem after_blanks {gap : List Char} (h : AllBlank gap) (m : Mode) :
    (scan m gap).after = m ∨ (m = .line ∧ (scan m gap).after = .code) := by
  induction gap generalizing m with
  | nil => exact .inl (by rw [scan_nil])
  | cons d ds ih =>
    have hd : isBlank d = true := h d List.mem_cons_self
    have hrest := ih fun e he => h e (List.mem_cons_of_mem d he)
    rw [scan_single fun e _ => pair?_blank hd, prepend_after]
    by_cases hfeed : (d, m) = ('\n', .line)
    · obtain ⟨rfl, rfl⟩ := Prod.mk.inj hfeed
      rcases hrest .code with hcode | ⟨hline, -⟩
      · exact .inr ⟨rfl, hcode⟩
      · cases hline
    · rw [single_of_blank hd hfeed]
      exact hrest m

theorem after_trimRight (m : Mode) (cs : List Char) :
    (scan m cs).after = (scan m (trimRight cs)).after ∨
      ((scan m (trimRight cs)).after = .line ∧ (scan m cs).after = .code) := by
  obtain ⟨gap, hgap, hcs⟩ := exists_eq_trimRight_append cs
  have hafter : (scan m cs).after = (scan (scan m (trimRight cs)).after gap).after := by
    conv_lhs => rw [hcs]
    cases gap with
    | nil => simp
    | cons d ds => exact after_append (lone_of_blank (hgap d List.mem_cons_self)) ds m _
  rw [hafter]
  exact after_blanks hgap _

end QueryBook.Scan
