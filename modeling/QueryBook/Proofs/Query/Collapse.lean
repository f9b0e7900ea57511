import QueryBook.Proofs.Scan.Significant
import QueryBook.Query.Normalize

/-!
# Collapsed texts are read in step

Collapsing blanks does not look at quotes and comments, but it keeps how the text is read: a blank
is never one of two characters read together and keeps the mode, with one exception, the line feed
that ends a comment. Up to the first such feed (`upToFeed`) the collapsed text is read in step with
the text, and from there on it is part of that comment. So, if quoted pieces hold no blanks but
single spaces (`QuotesTight`), the significant text of the collapsed text is that of the text up to
the first feed (`spaced_collapse`), and the mode it ends in is that of the text unless there is such
a feed (`after_collapse`).
-/

namespace QueryBook.Normalize

open Text Scan

/-- In a text that begins in a mode, every run of blanks inside a quoted piece is exactly one
space. -/
def QuotesTight (m : Mode) (cs : List Char) : Prop :=
  ∀ before c after n, cs = before ++ c :: after →
    (scan m cs).modes[before.length]? = some n → n.isQuoted = true → isBlank c = true →
      c = ' ' ∧ StartsSolid after

/-- The marks of a text up to the line feed that ends the first comment of a line. -/
def upToFeed (m : Mode) (cs : List Char) : List (Char × Mode) :=
  (marked m cs).takeWhile (· ≠ ('\n', .line))

/-! ## Collapsed texts -/

theorem collapse_blank {c : Char} (h : isBlank c = true) (r : Bool) (cs : List Char) :
    collapse r (c :: cs) = (if r then [] else [' ']) ++ collapse true cs := by
  cases r <;> simp [collapse, h]

theorem collapse_solid {c : Char} (h : isBlank c = false) (r : Bool) (cs : List Char) :
    collapse r (c :: cs) = c :: collapse false cs := by
  simp [collapse, h]

theorem collapse_append_solid {us : List Char} (hne : us ≠ []) (hus : ∀ c ∈ us, isBlank c = false)
    (r : Bool) (cs : List Char) : collapse r (us ++ cs) = us ++ collapse false cs := by
  induction us generalizing r with
  | nil => exact absurd rfl hne
  | cons u us ih =>
    obtain ⟨hu, hus⟩ := List.forall_mem_cons.1 hus
    rw [List.cons_append, collapse_solid hu]
    cases us with
    | nil => rfl
    | cons w us => rw [ih (List.cons_ne_nil w us) hus]; rfl

theorem tight_collapse (r : Bool) (cs : List Char) :
    Tight (collapse r cs) ∧ (r = true → StartsSolid (collapse r cs)) := by
  induction cs generalizing r with
  | nil => exact ⟨trivial, fun _ => nofun⟩
  | cons c cs ih =>
    obtain ⟨htight, hsolid⟩ := ih true
    cases hc : isBlank c with
    | true =>
      rw [collapse_blank hc]
      exact ⟨tight_gap htight (hsolid rfl), by rintro rfl; exact hsolid rfl⟩
    | false =>
      rw [collapse_solid hc]
      exact ⟨tight_cons_of_solid hc (ih false).1, fun _ => startsSolid_cons hc⟩

/-- A tight text is on one line. -/
theorem newline_notMem_of_tight {cs : List Char} (h : Tight cs) : '\n' ∉ cs := by
  induction cs with
  | nil => exact List.not_mem_nil
  | cons c cs ih =>
    intro hmem
    rcases List.mem_cons.1 hmem with rfl | hmem
    · exact absurd (h.1 (by decide)).1 (by decide)
    · exact ih h.2 hmem

/-- Collapsing keeps what a character is read together with. -/
theorem pair?_collapse {m : Mode} {c : Char} {cs : List Char}
    (h : ∀ d ∈ cs.head?, m.pair? c d = none) :
    ∀ d ∈ (collapse false cs).head?, m.pair? c d = none := by
  intro d hd
  cases cs with
  | nil => cases hd
  | cons e cs =>
    cases he : isBlank e with
    | true =>
      rw [collapse_blank he] at hd
      cases hd
      exact pair?_of_blank (by decide)
    | false =>
      rw [collapse_solid he] at hd
      exact h d hd

/-! ## Comments without a line end -/

theorem scan_line {cs : List Char} (h : '\n' ∉ cs) :
    scan .line cs = ⟨cs.map fun _ => .line, .line⟩ := by
  induction cs with
  | nil => rw [scan_nil]; rfl
  | cons c cs ih =>
    obtain ⟨hc, hcs⟩ : '\n' ≠ c ∧ '\n' ∉ cs := by simpa using h
    have hstay : Mode.line.single c = (.line, .line) := by simp [Mode.single, hc.symm]
    rw [scan_single fun _ _ => rfl, hstay, ih hcs]
    rfl

theorem spaced_line {cs : List Char} (h : '\n' ∉ cs) : spaced true (marked .line cs) = [] := by
  induction cs with
  | nil => rw [marked_nil]; rfl
  | cons c cs ih =>
    obtain ⟨hc, hcs⟩ : '\n' ≠ c ∧ '\n' ∉ cs := by simpa using h
    have hstay : Mode.line.single c = (.line, .line) := by simp [Mode.single, hc.symm]
    rw [marked_single fun _ _ => rfl, hstay, spaced_of_separates (separates_of_comment rfl)]
    exact ih hcs

/-- A character is the line feed that ends a comment, or it is not. -/
theorem feed_cases (m : Mode) (c : Char) :
    (c = '\n' ∧ m = .line) ∨ (c, m) ≠ ('\n', .line) := by
  by_cases h : (c, m) = ('\n', .line)
  · exact .inl (Prod.mk.inj h)
  · exact .inr h

/-! ## The marks up to the first feed -/

@[simp] theorem upToFeed_nil (m : Mode) : upToFeed m [] = [] := by
  simp [upToFeed]

theorem upToFeed_feed (cs : List Char) : upToFeed .line ('\n' :: cs) = [] := by
  rw [upToFeed, marked_blank (by decide)]
  simp

theorem upToFeed_blank {m : Mode} {c : Char} (h : isBlank c = true) (hm : (c, m) ≠ ('\n', .line))
    (cs : List Char) : upToFeed m (c :: cs) = (c, m) :: upToFeed m cs := by
  rw [upToFeed, marked_blank h, single_of_blank h hm,
    List.takeWhile_cons_of_pos (by simp only [decide_eq_true_eq]; exact hm)]
  rfl

theorem upToFeed_solid {m : Mode} {c : Char} {cs : List Char} (h : isBlank c = false)
    (halone : ∀ d ∈ cs.head?, m.pair? c d = none) :
    upToFeed m (c :: cs) = (c, (m.single c).1) :: upToFeed (m.single c).2 cs := by
  have hc : c ≠ '\n' := by rintro rfl; exact absurd h (by decide)
  rw [upToFeed, marked_single halone, List.takeWhile_cons_of_pos (by simp [hc])]
  rfl

theorem upToFeed_pair {m here next : Mode} {c d : Char} (h : m.pair? c d = some (here, next))
    (cs : List Char) :
    upToFeed m (c :: d :: cs) = (c, here) :: (d, here) :: upToFeed next cs := by
  obtain ⟨hc, hd⟩ := isBlank_of_pair? h
  have hc' : c ≠ '\n' := by rintro rfl; exact absurd hc (by decide)
  have hd' : d ≠ '\n' := by rintro rfl; exact absurd hd (by decide)
  rw [upToFeed, marked_pair h, List.takeWhile_cons_of_pos (by simp [hc']),
    List.takeWhile_cons_of_pos (by simp [hd'])]
  rfl

/-! ## The collapsed text is read in step -/

/-- What is true of a text is true of the rest behind a stretch that was read on its own. -/
theorem QuotesTight.tail {m m' : Mode} (us : List Char) {cs : List Char} {ms : List Mode}
    (h : QuotesTight m (us ++ cs)) (hscan : scan m (us ++ cs) = (scan m' cs).prepend ms)
    (hlen : ms.length = us.length) : QuotesTight m' cs := by
  intro before c after n hsplit hn
  refine h (us ++ before) c after n (by rw [hsplit, List.append_assoc]) ?_
  rw [List.length_append, getElem?_modes_append hscan hlen]
  exact hn

/-- The significant text of the collapsed text is that of the text up to the first feed, if quoted
pieces are tight. The hypotheses on the flags say that a comment of a line has opened a gap, and
that blanks that are skipped are those of an open gap. -/
theorem spaced_collapse (m : Mode) (cs : List Char) (htight : QuotesTight m cs) (g r : Bool)
    (hline : m = .line → g = true)
    (hskip : r = true → (g = true ∧ m.isQuoted = false) ∨ StartsSolid cs) :
    spaced g (marked m (collapse r cs)) = spaced g (upToFeed m cs) := by
  induction m, cs using readingInduction generalizing g r with
  | nil m => rw [upToFeed_nil, collapse, marked_nil]
  | pair m c d cs here next hpair ih =>
    obtain ⟨hc, hd⟩ := isBlank_of_pair? hpair
    obtain ⟨hhere, hnext, hcomment⟩ := isQuoted_pair hpair
    have hrest : QuotesTight next cs := htight.tail [c, d] (scan_pair hpair cs) rfl
    rw [collapse_solid hc, collapse_solid hd, marked_pair hpair, upToFeed_pair hpair]
    cases hm : m.isQuoted with
    | true =>
      rw [hm] at hhere hnext
      have hsep := separates_of_quoted (c := c) hhere
      have hsep' := separates_of_quoted (c := d) hhere
      rw [spaced_of_not_separates hsep, spaced_of_not_separates hsep', spaced_of_not_separates hsep,
        spaced_of_not_separates hsep', ih hrest false false (by rintro rfl; cases hnext) nofun]
    | false =>
      rw [hm] at hcomment
      have hsep := separates_of_comment (c := c) hcomment
      have hsep' := separates_of_comment (c := d) hcomment
      rw [spaced_of_separates hsep, spaced_of_separates hsep', spaced_of_separates hsep,
        spaced_of_separates hsep', ih hrest true false (fun _ => rfl) nofun]
  | single m c cs halone ih =>
    have hrest : QuotesTight (m.single c).2 cs := htight.tail [c] (scan_single halone) rfl
    cases hc : isBlank c with
    | false =>
      rw [collapse_solid hc, marked_single (pair?_collapse halone), upToFeed_solid hc halone]
      cases hsep : separates (c, (m.single c).1) with
      | true =>
        rw [spaced_of_separates hsep, spaced_of_separates hsep,
          ih hrest true false (fun _ => rfl) nofun]
      | false =>
        rw [spaced_of_not_separates hsep, spaced_of_not_separates hsep,
          ih hrest false false ?_ nofun]
        intro hnext
        have hm := eq_line_of_single hnext
        rw [hm, separates_of_comment rfl] at hsep
        cases hsep
    | true =>
      rcases feed_cases m c with ⟨rfl, rfl⟩ | hfeed
      -- From the feed on the collapsed text is part of the comment.
      · have hfree := newline_notMem_of_tight (tight_collapse r ('\n' :: cs)).1
        rw [hline rfl, spaced_line hfree, upToFeed_feed, spaced_nil]
      · rw [single_of_blank hc hfeed] at ih hrest
        rw [collapse_blank hc, upToFeed_blank hc hfeed]
        cases r with
        | true =>
          rcases hskip rfl with ⟨rfl, hm⟩ | hsolid
          · rw [spaced_of_separates (separates_of_blank hm hc)]
            exact ih hrest true true (fun _ => rfl) fun _ => .inl ⟨rfl, hm⟩
          · exact absurd hc (Bool.eq_false_iff.1 (hsolid c rfl))
        | false =>
          rw [if_neg (by simp), List.singleton_append, marked_blank (by decide),
            single_of_blank (by decide) (by simp)]
          cases hm : m.isQuoted with
          | true =>
            have hmode : (scan m (c :: cs)).modes[([] : List Char).length]? = some m :=
              getElem?_modes_of_blank hc [] cs
            obtain ⟨rfl, hsolid⟩ := htight [] c cs m rfl hmode hm hc
            have hsep := separates_of_quoted (c := ' ') hm
            rw [spaced_of_not_separates hsep, spaced_of_not_separates hsep,
              ih hrest false true (by rintro rfl; cases hm) fun _ => .inr hsolid]
          | false =>
            rw [spaced_of_separates (separates_of_blank hm hc),
              spaced_of_separates (separates_of_blank hm (by decide)),
              ih hrest true true (fun _ => rfl) fun _ => .inl ⟨rfl, hm⟩]

/-- The collapsed text ends in the mode of the text, or in the comment that lost its feed. -/
theorem after_collapse (m : Mode) (cs : List Char) (r : Bool) :
    (scan m (collapse r cs)).after =
      if ('\n', .line) ∈ marked m cs then .line else (scan m cs).after := by
  induction m, cs using readingInduction generalizing r with
  | nil m => simp [collapse]
  | pair m c d cs here next hpair ih =>
    obtain ⟨hc, hd⟩ := isBlank_of_pair? hpair
    have hc' : '\n' ≠ c := by rintro rfl; exact absurd hc (by decide)
    have hd' : '\n' ≠ d := by rintro rfl; exact absurd hd (by decide)
    rw [collapse_solid hc, collapse_solid hd, scan_pair hpair, scan_pair hpair, marked_pair hpair,
      prepend_after, prepend_after, ih]
    simp [hc', hd']
  | single m c cs halone ih =>
    cases hc : isBlank c with
    | false =>
      have hc' : '\n' ≠ c := by rintro rfl; exact absurd hc (by decide)
      rw [collapse_solid hc, scan_single (pair?_collapse halone), scan_single halone,
        marked_single halone, prepend_after, prepend_after, ih]
      simp [hc']
    | true =>
      rcases feed_cases m c with ⟨rfl, rfl⟩ | hfeed
      · have hfree := newline_notMem_of_tight (tight_collapse r ('\n' :: cs)).1
        rw [scan_line hfree, marked_blank hc]
        simp
      · have hstay := single_of_blank hc hfeed
        rw [hstay] at ih
        have hblank :
            (scan m (collapse r (c :: cs))).after = (scan m (collapse true cs)).after := by
          rw [collapse_blank hc]
          cases r with
          | true => rfl
          | false =>
            rw [if_neg (by simp), List.singleton_append,
              scan_single fun _ _ => pair?_blank (by decide), single_of_blank (by decide) (by simp),
              prepend_after]
        rw [hblank, ih, marked_blank hc, scan_single halone, hstay, prepend_after]
        have hne : ('\n', Mode.line) ≠ (c, m) := hfeed.symm
        simp [hne]

end QueryBook.Normalize
