import QueryBook.Proofs.Query.Normalization

/-!
# The runs of a text

What normalization keeps of a text are its runs, the longest stretches without blanks (`runs`). The
collapsed and trimmed text is the runs with single spaces between them (`trimRight_collapse`), so
that texts with the same runs have the same normal form (`normal_congr`). Of the characters that are
no blanks normalization drops at most one, a semicolon at the end (`solids_normal`). Normalizing
once more only looks for a further semicolon (`normal_normal`), and so it changes nothing unless the
text ends in two of them (`normalize_runs`).
-/

namespace QueryBook.Normalize

open Text Scan

/-- The longest stretches of a text without blanks, in order. -/
def runs (cs : List Char) : List (List Char) :=
  (cs.splitOnP isBlank).filter fun run => !run.isEmpty

/-- The characters of a text that are no blanks. -/
def solids (cs : List Char) : List Char :=
  cs.filter fun c => !isBlank c

/-- The second text is the first one, which does not end in a semicolon, or it is the first one
without the semicolon at its end and the blanks before that. -/
def Unterminated (us vs : List Char) : Prop :=
  us.getLast? ≠ some ';' ∧ vs = us ∨
    ∃ gap, AllBlank gap ∧ us = vs ++ gap ++ [';'] ∧ ∀ c ∈ vs.getLast?, isBlank c = false

/-! ## Runs -/

/-- A blank separates runs. -/
theorem runs_append_blank (us : List Char) {c : Char} (hc : isBlank c = true) (vs : List Char) :
    runs (us ++ c :: vs) = runs us ++ runs vs := by
  rw [runs, List.splitOnP_append_cons us vs hc, List.filter_append]
  rfl

@[simp] theorem runs_nil : runs [] = [] := by
  simp [runs]

theorem runs_concat_blank (us : List Char) {c : Char} (hc : isBlank c = true) :
    runs (us ++ [c]) = runs us := by
  rw [runs_append_blank us hc, runs_nil, List.append_nil]

theorem runs_of_solid {us : List Char} (hus : ∀ c ∈ us, isBlank c = false) (hne : us ≠ []) :
    runs us = [us] := by
  rw [runs, List.splitOnP_eq_singleton fun c hc => by simp [hus c hc]]
  simp [hne]

theorem ne_nil_of_mem_runs {cs run : List Char} (h : run ∈ runs cs) : run ≠ [] := by
  simpa using (List.mem_filter.1 h).2

/-- Texts are runs, perhaps empty ones, with blanks between them. -/
@[elab_as_elim]
theorem runInduction {motive : List Char → Prop}
    (last : ∀ us, (∀ c ∈ us, isBlank c = false) → motive us)
    (blank : ∀ us c vs, (∀ c ∈ us, isBlank c = false) → isBlank c = true → motive vs →
      motive (us ++ c :: vs))
    (cs : List Char) : motive cs := by
  have hus : ∀ c ∈ cs.takeWhile (!isBlank ·), isBlank c = false := fun c hc => by
    simpa using List.mem_takeWhile_imp hc
  have hsplit := List.takeWhile_append_dropWhile (p := (!isBlank ·)) (l := cs)
  cases hrest : cs.dropWhile (!isBlank ·) with
  | nil =>
    rw [hrest, List.append_nil] at hsplit
    exact hsplit ▸ last _ hus
  | cons c vs =>
    have hc : isBlank c = true := by
      have hhead := List.head?_dropWhile_not (!isBlank ·) cs
      rw [hrest] at hhead
      simpa using hhead
    rw [hrest] at hsplit
    have hshorter : vs.length < cs.length := by
      rw [← hsplit, List.length_append, List.length_cons]
      omega
    exact hsplit ▸ blank _ c vs hus hc (runInduction last blank vs)
termination_by cs.length

/-- The collapsed text, trimmed, is the runs with single spaces between them. -/
theorem trimRight_collapse (cs : List Char) :
    trimRight (collapse true cs) = [' '].intercalate (runs cs) := by
  induction cs using runInduction with
  | last us hus =>
    by_cases hne : us = []
    · rw [hne]
      simp [collapse, trimRight]
    · have hwhole := collapse_append_solid hne hus true []
      rw [List.append_nil] at hwhole
      rw [hwhole, runs_of_solid hus hne, collapse, List.append_nil,
        trimRight_of_ends_solid fun c hc => hus c (List.mem_of_getLast? hc),
        List.intercalate_singleton]
  | blank us c vs hus hc ih =>
    rw [runs_append_blank us hc]
    by_cases hne : us = []
    · rw [hne, List.nil_append, collapse_blank hc, runs_nil]
      exact ih
    · rw [collapse_append_solid hne hus, collapse_blank hc, runs_of_solid hus hne,
        if_neg Bool.false_ne_true, List.singleton_append]
      cases hruns : runs vs with
      | nil =>
        rw [hruns] at ih
        have hblank : AllBlank (' ' :: collapse true vs) :=
          List.forall_mem_cons.2 ⟨by decide, trimRight_eq_nil.1 ih⟩
        rw [trimRight_append_of_blank us hblank,
          trimRight_of_ends_solid fun c hc => hus c (List.mem_of_getLast? hc)]
        simp
      | cons run more =>
        have hrun : run ≠ [] := ne_nil_of_mem_runs (hruns ▸ List.mem_cons_self)
        have hshown : trimRight (collapse true vs) ≠ [] := by
          rw [ih, hruns]
          cases more <;> simp [List.intercalate_cons_cons, hrun]
        rw [List.append_cons, trimRight_append_of_ne_nil _ hshown, ih, hruns,
          List.singleton_append, List.intercalate_cons_cons]

/-- The normal form depends on the runs alone. -/
theorem normal_congr {us vs : List Char} (h : runs us = runs vs) : normal us = normal vs := by
  rw [normal_eq, normal_eq, trimRight_collapse, trimRight_collapse, h]

theorem unterminated_dropTerminator (us : List Char) : Unterminated us (dropTerminator us) := by
  rw [dropTerminator]
  split
  · next hlast =>
    obtain ⟨init, rfl⟩ := List.getLast?_eq_some_iff.1 hlast
    obtain ⟨gap, hgap, hinit⟩ := exists_eq_trimRight_append init
    refine .inr ⟨gap, hgap, ?_, ?_⟩
    · rw [List.dropLast_concat, ← hinit]
    · exact isBlank_getLast?_trimRight _
  · next hlast => exact .inl ⟨hlast, rfl⟩

/-! ## What is no blank -/

theorem solids_append (us vs : List Char) : solids (us ++ vs) = solids us ++ solids vs :=
  List.filter_append us vs

theorem solids_of_allBlank {cs : List Char} (h : AllBlank cs) : solids cs = [] :=
  List.filter_eq_nil_iff.2 fun c hc => by simp [h c hc]

theorem solids_cons {c : Char} (h : isBlank c = false) (cs : List Char) :
    solids (c :: cs) = c :: solids cs :=
  List.filter_cons_of_pos (by simp [h])

theorem solids_collapse (r : Bool) (cs : List Char) : solids (collapse r cs) = solids cs := by
  induction cs generalizing r with
  | nil => rfl
  | cons c cs ih =>
    cases hc : isBlank c with
    | true =>
      have hgap : AllBlank (if r then [] else [' ']) := allBlank_gap r
      rw [collapse_blank hc, solids_append, solids_of_allBlank hgap, ih, ← List.singleton_append,
        solids_append, solids_of_allBlank (List.forall_mem_singleton.2 hc)]
    | false => rw [collapse_solid hc, solids_cons hc, solids_cons hc, ih]

theorem solids_trimRight (cs : List Char) : solids (trimRight cs) = solids cs := by
  obtain ⟨gap, hgap, hcs⟩ := exists_eq_trimRight_append cs
  nth_rewrite 2 [hcs]
  rw [solids_append, solids_of_allBlank hgap, List.append_nil]

/-- A text without blanks at its end ends as it does without its blanks. -/
theorem getLast?_solids {cs : List Char} (h : ∀ c ∈ cs.getLast?, isBlank c = false) :
    (solids cs).getLast? = cs.getLast? := by
  rcases List.eq_nil_or_concat cs with rfl | ⟨init, c, rfl⟩
  · rfl
  · rw [List.concat_eq_append] at h ⊢
    rw [solids_append, solids_cons (h c (by simp)), List.getLast?_append_of_ne_nil _ (by simp)]
    simp [solids]

/-- Normalization drops one semicolon at the end and no other character that is no blank. -/
theorem solids_normal (cs : List Char) :
    solids (normal cs) =
      if (solids cs).getLast? = some ';' then (solids cs).dropLast else solids cs := by
  have hall : solids (trimRight (collapse true cs)) = solids cs := by
    rw [solids_trimRight, solids_collapse]
  have hends := getLast?_solids (isBlank_getLast?_trimRight (collapse true cs))
  rw [hall] at hends
  rw [normal_eq, dropTerminator, ← hends]
  split
  · next hlast =>
    rw [hends] at hlast
    obtain ⟨init, hinit⟩ := List.getLast?_eq_some_iff.1 hlast
    have hsplit : solids cs = solids init ++ [';'] := by
      rw [← hall, hinit, solids_append, solids_cons (by decide)]
      rfl
    rw [hinit, List.dropLast_concat, solids_trimRight, hsplit, List.dropLast_concat]
  · exact hall

/-! ## Normalizing twice -/

theorem collapse_of_tight {cs : List Char} (h : Tight cs) {r : Bool}
    (hr : r = true → StartsSolid cs) : collapse r cs = cs := by
  induction cs generalizing r with
  | nil => rfl
  | cons c cs ih =>
    cases hc : isBlank c with
    | true =>
      obtain ⟨rfl, hsolid⟩ := h.1 hc
      cases r with
      | true =>
        rw [hr rfl ' ' rfl] at hc
        cases hc
      | false => rw [collapse_blank hc, ih h.2 fun _ => hsolid]; rfl
    | false => rw [collapse_solid hc, ih h.2 fun h => absurd h Bool.false_ne_true]

/-- A normal form is changed by normalizing only where it ends in a semicolon. -/
theorem normal_normal (cs : List Char) : normal (normal cs) = dropTerminator (normal cs) := by
  rw [normal_eq, collapse_of_tight (tight_normal cs) fun _ => startsSolid_normal cs,
    trimRight_of_ends_solid (isBlank_getLast?_normal cs)]

/-- A normal form ends in a semicolon if the text ends in two of them, with blanks between them or
not. -/
theorem getLast?_normal_iff (cs : List Char) :
    (normal cs).getLast? = some ';' ↔ [';', ';'] <:+ solids cs := by
  rw [← getLast?_solids (isBlank_getLast?_normal cs), solids_normal]
  split
  · next hlast =>
    obtain ⟨init, hinit⟩ := List.getLast?_eq_some_iff.1 hlast
    rw [hinit, List.dropLast_concat, List.getLast?_eq_some_iff]
    constructor
    · rintro ⟨us, rfl⟩
      exact ⟨us, by simp⟩
    · rintro ⟨us, hus⟩
      exact ⟨us, List.append_cancel_right (hus.symm.trans (by simp))⟩
  · next hlast =>
    refine iff_of_false hlast ?_
    rintro ⟨us, hus⟩
    exact hlast (by simp [← hus])

end QueryBook.Normalize

namespace QueryBook

open Text Normalize

/-- **What the normal form of a text is.** It is the runs of the text with single spaces between
them, without the semicolon at the end and the blanks before that. Every other character that is no
blank stays, in order. The normal form is in normal form and does not end in a semicolon if and
only if the last two characters that are no blanks are not both semicolons. -/
theorem normalize_runs (sql : String) :
    Unterminated ([' '].intercalate (runs sql.toList)) (normalize sql).toList ∧
      solids (normalize sql).toList =
        (if (solids sql.toList).getLast? = some ';' then (solids sql.toList).dropLast
          else solids sql.toList) ∧
      (normalize (normalize sql) = normalize sql ∧ (normalize sql).toList.getLast? ≠ some ';' ↔
        ¬ [';', ';'] <:+ solids sql.toList) := by
  have hnormal : (normalize sql).toList = normal sql.toList := by
    rw [normalize, String.toList_ofList]
  refine ⟨?_, ?_, ?_⟩
  · rw [hnormal, normal_eq, trimRight_collapse]
    exact unterminated_dropTerminator _
  · rw [hnormal, solids_normal]
  · rw [hnormal, ne_eq, getLast?_normal_iff, and_iff_right_iff_imp]
    intro hends
    rw [normalize, hnormal, normal_normal, dropTerminator,
      if_neg fun hlast => hends ((getLast?_normal_iff _).1 hlast), normalize]

/-- With two semicolons at the end, normalizing once more drops the other one. -/
example : normalize "a; ;" = "a;" ∧ normalize (normalize "a; ;") = "a" := by decide +kernel

end QueryBook
