import QueryBook.Proofs.Scan.Marked

/-!
# The significant text

What a database reads of a SQL text is the text without its comments, with one space for each gap
between words, and with quoted pieces as they stand: `significant`. Comments and blanks outside
quotes both separate (`separates`), and a run of them is one gap. Behind a gap no blank follows
(`startsSolid_spaced`), so that only the right end is left to trim (`significant_eq`), and the
significant text of a tight text is tight (`tight_spaced`).
-/

namespace QueryBook.Scan

open Text

/-- What stands for a gap: characters of comments, and blanks that are not quoted. -/
def separates (x : Char × Mode) : Bool :=
  x.2.isComment || (!x.2.isQuoted && isBlank x.1)

/-- The text of marked characters with one space for each run that separates; `inGap` says that
the space for the run before is already there. -/
def spaced (inGap : Bool) : List (Char × Mode) → List Char
  | [] => []
  | x :: xs =>
    if separates x then
      if inGap then spaced true xs else ' ' :: spaced true xs
    else x.1 :: spaced false xs

/-- The significant text: comments replaced by spaces, runs of blanks outside quotes collapsed to
one space, and the ends trimmed. -/
def significant (cs : List Char) : List Char :=
  trim (spaced false (marked .code cs))

/-! ## Equations -/

@[simp] theorem spaced_nil (g : Bool) : spaced g [] = [] := rfl

theorem spaced_of_separates {x : Char × Mode} (h : separates x = true) (g : Bool)
    (xs : List (Char × Mode)) :
    spaced g (x :: xs) = (if g then [] else [' ']) ++ spaced true xs := by
  cases g <;> simp [spaced, h]

theorem spaced_of_not_separates {x : Char × Mode} (h : separates x = false) (g : Bool)
    (xs : List (Char × Mode)) : spaced g (x :: xs) = x.1 :: spaced false xs := by
  simp [spaced, h]

theorem separates_of_comment {c : Char} {m : Mode} (h : m.isComment = true) :
    separates (c, m) = true := by
  simp [separates, h]

theorem separates_of_blank {c : Char} {m : Mode} (h : m.isQuoted = false)
    (hc : isBlank c = true) : separates (c, m) = true := by
  simp [separates, h, hc]

theorem separates_of_quoted {c : Char} {m : Mode} (h : m.isQuoted = true) :
    separates (c, m) = false := by
  cases m <;> simp_all [separates, Mode.isQuoted, Mode.isComment]

/-- Whether a gap has been opened at the end of marked characters. -/
def endsGap (g : Bool) (xs : List (Char × Mode)) : Bool :=
  (xs.getLast?.map separates).getD g

theorem endsGap_cons (g : Bool) (x : Char × Mode) (xs : List (Char × Mode)) :
    endsGap g (x :: xs) = endsGap (separates x) xs := by
  cases xs with
  | nil => rfl
  | cons y xs => simp [endsGap, List.getLast?_cons]

theorem spaced_append (g : Bool) (xs ys : List (Char × Mode)) :
    spaced g (xs ++ ys) = spaced g xs ++ spaced (endsGap g xs) ys := by
  induction xs generalizing g with
  | nil => rfl
  | cons x xs ih =>
    rw [List.cons_append, endsGap_cons]
    cases hx : separates x with
    | true => rw [spaced_of_separates hx, spaced_of_separates hx, ih, List.append_assoc]
    | false => rw [spaced_of_not_separates hx, spaced_of_not_separates hx, ih, List.cons_append]

theorem spaced_isPrefix (g : Bool) {xs ys : List (Char × Mode)} (h : xs <+: ys) :
    spaced g xs <+: spaced g ys := by
  obtain ⟨zs, rfl⟩ := h
  rw [spaced_append]
  exact List.prefix_append _ _

/-- An open gap only saves the space for the next one. -/
theorem spaced_true_or (xs : List (Char × Mode)) :
    spaced false xs = spaced true xs ∨ spaced false xs = ' ' :: spaced true xs := by
  cases xs with
  | nil => exact .inl rfl
  | cons x xs => cases hx : separates x <;> simp [spaced, hx]

/-! ## Quoted and other modes -/

theorem isQuoted_pair {m here next : Mode} {c d : Char} (h : m.pair? c d = some (here, next)) :
    here.isQuoted = m.isQuoted ∧ next.isQuoted = m.isQuoted ∧ here.isComment = !m.isQuoted := by
  cases m with
  | code =>
    simp only [Mode.pair?] at h
    split at h
    · cases h; exact ⟨rfl, rfl, rfl⟩
    · split at h
      · cases h; exact ⟨rfl, rfl, rfl⟩
      · cases h
  | string | block =>
    simp only [Mode.pair?] at h
    split at h
    · cases h; exact ⟨rfl, rfl, rfl⟩
    · cases h
  | identifier | line => cases h

/-- What is quoted is left only by a quoted character. -/
theorem isQuoted_single_snd {m : Mode} {c : Char} (h : (m.single c).1.isQuoted = false) :
    (m.single c).2.isQuoted = false := by
  cases m with
  | code =>
    simp only [Mode.single] at h ⊢
    split at h
    · cases h
    · next hquote =>
      rw [if_neg hquote]
      split at h
      · cases h
      · next hname => rw [if_neg hname]; rfl
  | line => simp only [Mode.single]; split <;> rfl
  | block => rfl
  | string | identifier => cases h

theorem single_fst_of_quoted {m : Mode} (h : m.isQuoted = true) (c : Char) :
    (m.single c).1 = m := by
  cases m with
  | string | identifier => rfl
  | code | line | block => cases h

/-- A quoted piece begins with a quote. -/
theorem isBlank_of_isQuoted_single {m : Mode} {c : Char} (hm : m.isQuoted = false)
    (h : (m.single c).1.isQuoted = true) : isBlank c = false := by
  refine Bool.eq_false_iff.2 fun hc => ?_
  rw [single_fst_of_blank hc, hm] at h
  cases h

/-- A quoted piece ends with a quote. -/
theorem isBlank_of_leaves_quoted {m : Mode} {c : Char} (hm : m.isQuoted = true)
    (h : (m.single c).2.isQuoted = false) : isBlank c = false ∧ c ≠ ';' := by
  have hquote : c = '\'' ∨ c = '"' := by
    cases m with
    | string =>
      simp only [Mode.single] at h
      split at h
      · next hc => exact .inl hc
      · cases h
    | identifier =>
      simp only [Mode.single] at h
      split at h
      · next hc => exact .inr hc
      · cases h
    | code | line | block => cases hm
  rcases hquote with rfl | rfl <;> decide

/-- An unquoted character separates, or it is code and no blank. -/
theorem separates_of_unquoted {c : Char} {m : Mode} (h : m.isQuoted = false) :
    separates (c, m) = true ∨ isBlank c = false := by
  cases hc : isBlank c with
  | false => exact .inr rfl
  | true => exact .inl (separates_of_blank h hc)

/-! ## Gaps -/

/-- Behind a gap the significant text goes on with a character that is no blank. -/
theorem startsSolid_spaced (m : Mode) (cs : List Char) (hm : m.isQuoted = false) :
    StartsSolid (spaced true (marked m cs)) := by
  induction m, cs using readingInduction with
  | nil m => rw [marked_nil]; rintro c ⟨⟩
  | pair m c d cs here next hpair ih =>
    obtain ⟨-, hnext, hcomment⟩ := isQuoted_pair hpair
    rw [hm] at hnext hcomment
    rw [marked_pair hpair, spaced_of_separates (separates_of_comment hcomment),
      spaced_of_separates (separates_of_comment hcomment)]
    exact ih hnext
  | single m c cs halone ih =>
    rw [marked_single halone]
    cases hx : separates (c, (m.single c).1) with
    | false =>
      rw [spaced_of_not_separates hx]
      cases hq : (m.single c).1.isQuoted with
      | true => exact startsSolid_cons (isBlank_of_isQuoted_single hm hq)
      | false =>
        rcases separates_of_unquoted (c := c) hq with hsep | hc
        · rw [hx] at hsep; cases hsep
        · exact startsSolid_cons hc
    | true =>
      rw [spaced_of_separates hx]
      refine ih (isQuoted_single_snd (Bool.eq_false_iff.2 fun hq => ?_))
      rw [separates_of_quoted hq] at hx
      cases hx

/-- The significant text needs trimming on its right only, if its first gap is left out. -/
theorem significant_eq (cs : List Char) :
    significant cs = trimRight (spaced true (marked .code cs)) := by
  have hdrop := dropWhile_of_startsSolid (startsSolid_spaced .code cs rfl)
  rw [significant, trim]
  rcases spaced_true_or (marked .code cs) with h | h
  · rw [h, hdrop]
  · rw [h, List.dropWhile_cons_of_pos (by decide), hdrop]

theorem allBlank_gap (g : Bool) : AllBlank (if g then [] else [' ']) := by
  cases g with
  | true => nofun
  | false => intro c hc; rw [List.mem_singleton.1 hc]; decide

theorem startsSolid_significant (cs : List Char) : StartsSolid (significant cs) := by
  obtain ⟨gap, -, htrim⟩ := exists_eq_trimRight_append (spaced true (marked .code cs))
  rw [significant_eq]
  exact (htrim ▸ startsSolid_spaced .code cs rfl).of_append

theorem eq_line_of_single {m : Mode} {c : Char} (h : (m.single c).2 = .line) : m = .line := by
  cases m with
  | line => rfl
  | code =>
    simp only [Mode.single] at h
    split at h
    · cases h
    · split at h <;> cases h
  | string | identifier => simp only [Mode.single] at h; split at h <;> cases h
  | block => cases h

/-- A comment of a line has opened a gap. -/
theorem endsGap_of_line (m : Mode) (cs : List Char) (h : (scan m cs).after = .line) (g : Bool)
    (hg : m = .line → g = true) : endsGap g (marked m cs) = true := by
  induction m, cs using readingInduction generalizing g with
  | nil m =>
    rw [scan_nil] at h
    rw [marked_nil]
    exact hg h
  | pair m c d cs here next hpair ih =>
    rw [scan_pair hpair, prepend_after] at h
    rw [marked_pair hpair, endsGap_cons, endsGap_cons]
    refine ih h _ ?_
    rintro rfl
    obtain ⟨-, hnext, hcomment⟩ := isQuoted_pair hpair
    rw [← hnext] at hcomment
    exact separates_of_comment hcomment
  | single m c cs halone ih =>
    rw [scan_single halone, prepend_after] at h
    rw [marked_single halone, endsGap_cons]
    refine ih h _ fun hnext => ?_
    rw [eq_line_of_single hnext]
    exact separates_of_comment rfl

/-- The line feed of a comment is part of the gap between what is before and what is behind. -/
theorem spaced_append_feed {us : List Char} (h : (scan .code us).after = .line)
    (vs : List Char) :
    spaced true (marked .code (us ++ '\n' :: vs)) =
      spaced true (marked .code us) ++ spaced true (marked .code vs) := by
  have hgap := endsGap_of_line .code us h true fun _ => rfl
  rw [marked_append (lone_of_blank (by decide)), h, marked_blank (by decide), spaced_append, hgap,
    spaced_of_separates (separates_of_comment rfl)]
  rfl

/-- A quoted piece that is closed ends with a quote. -/
theorem exists_closing (m : Mode) (cs : List Char) (hm : m.isQuoted = true)
    (h : (scan m cs).after.isQuoted = false) (g : Bool) :
    ∃ q ∈ spaced g (marked m cs), isBlank q = false ∧ q ≠ ';' := by
  induction m, cs using readingInduction generalizing g with
  | nil m => rw [scan_nil, hm] at h; cases h
  | pair m c d cs here next hpair ih =>
    obtain ⟨hhere, hnext, -⟩ := isQuoted_pair hpair
    rw [hm] at hhere hnext
    rw [scan_pair hpair, prepend_after] at h
    rw [marked_pair hpair, spaced_of_not_separates (separates_of_quoted hhere),
      spaced_of_not_separates (separates_of_quoted hhere)]
    obtain ⟨q, hq, hsolid⟩ := ih hnext h false
    exact ⟨q, List.mem_cons_of_mem _ (List.mem_cons_of_mem _ hq), hsolid⟩
  | single m c cs halone ih =>
    rw [scan_single halone, prepend_after] at h
    have hhere : (m.single c).1.isQuoted = true := by rw [single_fst_of_quoted hm, hm]
    rw [marked_single halone, spaced_of_not_separates (separates_of_quoted hhere)]
    cases hnext : (m.single c).2.isQuoted with
    | false => exact ⟨c, List.mem_cons_self, isBlank_of_leaves_quoted hm hnext⟩
    | true =>
      obtain ⟨q, hq, hsolid⟩ := ih hnext h false
      exact ⟨q, List.mem_cons_of_mem _ hq, hsolid⟩

/-- Blanks that are not quoted leave at most a space. -/
theorem allBlank_spaced {m : Mode} {cs : List Char} (hm : m.isQuoted = false)
    (hcs : AllBlank cs) (g : Bool) : AllBlank (spaced g (marked m cs)) := by
  induction cs generalizing m g with
  | nil => rw [marked_nil]; rintro c ⟨⟩
  | cons c cs ih =>
    have hc : isBlank c = true := hcs c List.mem_cons_self
    have hrest : AllBlank cs := fun d hd => hcs d (List.mem_cons_of_mem c hd)
    have hnext : (m.single c).2.isQuoted = false :=
      isQuoted_single_snd (by rw [single_fst_of_blank hc, hm])
    rw [marked_blank hc, spaced_of_separates (separates_of_blank hm hc)]
    intro d hd
    rcases List.mem_append.1 hd with hd | hd
    · exact allBlank_gap g d hd
    · exact ih hnext hrest true d hd

theorem isQuoted_after_trimRight (m : Mode) (cs : List Char) :
    (scan m (trimRight cs)).after.isQuoted = (scan m cs).after.isQuoted := by
  rcases after_trimRight m cs with hsame | ⟨hline, hcode⟩
  · rw [hsame]
  · rw [hline, hcode]; rfl

/-- Blanks at the end, unless they are quoted, are not significant. -/
theorem significant_trimRight {cs : List Char} (h : (scan .code cs).after.isQuoted = false) :
    significant (trimRight cs) = significant cs := by
  obtain ⟨gap, hgap, hcs⟩ := exists_eq_trimRight_append cs
  rw [← isQuoted_after_trimRight] at h
  conv_rhs => rw [hcs, significant_eq, marked_append_blanks hgap, spaced_append,
    trimRight_append_of_blank _ (allBlank_spaced h hgap _)]
  exact significant_eq _

/-! ## Tight texts -/

theorem tight_gap {g : Bool} {cs : List Char} (h : Tight cs) (hstart : StartsSolid cs) :
    Tight ((if g then [] else [' ']) ++ cs) := by
  cases g with
  | true => exact h
  | false => exact h.space_cons hstart

/-- A tight text keeps its single spaces. The second part is for the induction: within quotes the
significant text begins as the text does. -/
theorem tight_spaced (m : Mode) (cs : List Char) (h : Tight cs) (g : Bool) :
    Tight (spaced g (marked m cs)) ∧
      (m.isQuoted = true → StartsSolid cs → StartsSolid (spaced g (marked m cs))) := by
  induction m, cs using readingInduction generalizing g with
  | nil m => rw [marked_nil]; exact ⟨trivial, fun _ h => h⟩
  | pair m c d cs here next hpair ih =>
    obtain ⟨hc, hd⟩ := isBlank_of_pair? hpair
    obtain ⟨hhere, hnext, hcomment⟩ := isQuoted_pair hpair
    have hrest := ih h.2.2
    rw [marked_pair hpair]
    cases hm : m.isQuoted with
    | true =>
      rw [hm] at hhere
      rw [spaced_of_not_separates (separates_of_quoted hhere),
        spaced_of_not_separates (separates_of_quoted hhere)]
      exact ⟨tight_cons_of_solid hc (tight_cons_of_solid hd (hrest false).1),
        fun _ _ => startsSolid_cons hc⟩
    | false =>
      rw [hm] at hnext hcomment
      rw [spaced_of_separates (separates_of_comment hcomment),
        spaced_of_separates (separates_of_comment hcomment)]
      exact ⟨tight_gap (hrest true).1 (startsSolid_spaced _ _ hnext), nofun⟩
  | single m c cs halone ih =>
    have hrest := ih h.2
    rw [marked_single halone]
    cases hx : separates (c, (m.single c).1) with
    | true =>
      have hq : (m.single c).1.isQuoted = false := by
        refine Bool.eq_false_iff.2 fun hq => ?_
        rw [separates_of_quoted hq] at hx
        cases hx
      rw [spaced_of_separates hx]
      refine ⟨tight_gap (hrest true).1 (startsSolid_spaced _ _ (isQuoted_single_snd hq)), ?_⟩
      intro hm
      rw [single_fst_of_quoted hm, hm] at hq
      cases hq
    | false =>
      rw [spaced_of_not_separates hx]
      cases hc : isBlank c with
      | false => exact ⟨tight_cons_of_solid hc (hrest false).1, fun _ _ => startsSolid_cons hc⟩
      | true =>
        -- A blank that is kept is quoted, so that what follows it is still quoted.
        obtain ⟨rfl, hsolid⟩ := h.1 hc
        have hstay : m.single ' ' = (m, m) := single_of_blank hc (by simp)
        rw [hstay] at hx hrest ⊢
        have hm : m.isQuoted = true := by
          by_contra hm
          rw [separates_of_blank (Bool.eq_false_iff.2 hm) hc] at hx
          cases hx
        exact ⟨(hrest false).1.space_cons ((hrest false).2 hm hsolid),
          fun _ hstart => absurd (hstart ' ' rfl) (by decide)⟩

end QueryBook.Scan
