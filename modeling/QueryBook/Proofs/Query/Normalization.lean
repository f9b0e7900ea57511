import QueryBook.Proofs.Query.Collapse

/-!
# When the normal form is the same statement

What a database reads of the normal form of a text is compared with what it reads of the text
(`significant`), up to the semicolon that normalization may drop (`SameUpToTerminator`).
`normalize_same_iff` says exactly when the two agree: when quoted pieces hold no blanks but single
spaces (`QuotesTight`), and when nothing but a semicolon stands behind a comment that ends with its
line (`CommentsLast`), since without its line feed that comment goes on to the end.

That the conditions are enough follows from `spaced_collapse`. The first one is necessary because
the significant text of the normal form is tight and shows quoted pieces as they stand
(`quotesTight_of_same`), the second one because what is behind the comment makes the significant
text longer (`commentsLast_of_same`).
-/

namespace QueryBook.Normalize

open Text Scan

/-- The first text is the second one, or that without one semicolon at its end and the blanks
before it. -/
def SameUpToTerminator (us vs : List Char) : Prop :=
  us = vs ∨ ∃ gap, AllBlank gap ∧ vs = us ++ gap ++ [';']

/-- Behind the line of a comment that ends with its line there is nothing significant but at most
one semicolon. -/
def CommentsLast (cs : List Char) : Prop :=
  ∀ before after, cs = before ++ '\n' :: after →
    (scan .code cs).modes[before.length]? = some .line →
      significant after = [] ∨ significant after = [';']

/-! ## The normal form -/

theorem normal_eq (cs : List Char) :
    normal cs = dropTerminator (trimRight (collapse true cs)) := by
  have hdrop := dropWhile_of_startsSolid ((tight_collapse true cs).2 rfl)
  have hstart : (collapse false cs).dropWhile isBlank = collapse true cs := by
    cases cs with
    | nil => rfl
    | cons c cs =>
      cases hc : isBlank c with
      | true =>
        rw [collapse_blank hc] at hdrop ⊢
        rw [collapse_blank hc, if_neg (by simp), if_pos rfl, List.singleton_append,
          List.dropWhile_cons_of_pos (by decide)]
        exact hdrop
      | false => rw [collapse_solid hc] at hdrop ⊢; rw [collapse_solid hc]; exact hdrop
  rw [normal, trim, hstart]

/-! ## The semicolon at the end -/

theorem single_semicolon (m : Mode) : m.single ';' = (m, m) := by
  cases m <;> rfl

/-- Dropping a semicolon at the end, and the blanks before it, drops it from the significant text
too, or changes nothing there because it belongs to a comment. -/
theorem significant_dropTerminator {cs : List Char}
    (h : (scan .code cs).after.isQuoted = false) :
    significant (dropTerminator cs) = significant cs ∨
      ((scan .code cs).after = .code ∧
        SameUpToTerminator (significant (dropTerminator cs)) (significant cs)) := by
  rw [dropTerminator]
  split
  · next hlast =>
    obtain ⟨us, rfl⟩ := List.getLast?_eq_some_iff.1 hlast
    have hafter : (scan .code (us ++ [';'])).after = (scan .code us).after := by
      rw [after_append lone_semicolon, scan_single (by simp), single_semicolon]
      rfl
    have hmarks : marked .code (us ++ [';']) =
        marked .code us ++ [(';', (scan .code us).after)] := by
      rw [marked_append lone_semicolon, marked_single (by simp), single_semicolon, marked_nil]
    rw [hafter] at h ⊢
    rw [List.dropLast_concat, significant_trimRight h, significant_eq, significant_eq, hmarks,
      spaced_append]
    cases hm : (scan .code us).after with
    | code =>
      obtain ⟨gap, hgap, hsig⟩ := exists_eq_trimRight_append (spaced true (marked .code us))
      refine .inr ⟨rfl, .inr ⟨gap, hgap, ?_⟩⟩
      rw [← hsig]
      exact trimRight_concat _ (by decide)
    | line | block =>
      refine .inl (trimRight_append_of_blank _ ?_).symm
      rw [spaced_of_separates (separates_of_comment rfl), spaced_nil, List.append_nil]
      exact allBlank_gap _
    | string | identifier => rw [hm] at h; cases h
  · exact .inl rfl

/-- What normalization does to the significant text it does by collapsing, but for the semicolon. -/
theorem significant_normal {cs : List Char} (h : Closed cs) :
    significant (normal cs) = significant (collapse true cs) ∨
      ((scan .code (collapse true cs)).after = .code ∧
        SameUpToTerminator (significant (normal cs)) (significant (collapse true cs))) := by
  have hafter : (scan .code (collapse true cs)).after.isQuoted = false := by
    rw [after_collapse]
    split
    · rfl
    · rcases h with h | h <;> rw [h] <;> rfl
  have htrimmed : (scan .code (trimRight (collapse true cs))).after.isQuoted = false := by
    rw [isQuoted_after_trimRight, hafter]
  rw [normal_eq, ← significant_trimRight hafter]
  rcases significant_dropTerminator htrimmed with hsame | ⟨hcode, hsame⟩
  · exact .inl hsame
  · refine .inr ⟨?_, hsame⟩
    rcases after_trimRight .code (collapse true cs) with hends | ⟨hline, -⟩
    · rw [hends, hcode]
    · rw [hcode] at hline; cases hline

/-! ## The two conditions -/

theorem length_le_of_same {us vs : List Char} (h : SameUpToTerminator us vs) :
    us.length ≤ vs.length := by
  rcases h with rfl | ⟨gap, -, rfl⟩
  · exact Nat.le_refl _
  · rw [List.length_append, List.length_append, Nat.add_assoc]
    exact Nat.le_add_right _ _

/-- The first text is the second without blanks and semicolons at its end. -/
theorem exists_append_of_same {us vs : List Char} (h : SameUpToTerminator us (trimRight vs)) :
    ∃ rest, vs = us ++ rest ∧ ∀ c ∈ rest, isBlank c = true ∨ c = ';' := by
  obtain ⟨blanks, hblanks, htrim⟩ := exists_eq_trimRight_append vs
  rcases h with rfl | ⟨gap, hgap, hend⟩
  · exact ⟨blanks, htrim, fun c hc => .inl (hblanks c hc)⟩
  · refine ⟨gap ++ [';'] ++ blanks, by rw [htrim, hend]; simp, fun c hc => ?_⟩
    rcases List.mem_append.1 hc with hc | hc
    · rcases List.mem_append.1 hc with hc | hc
      · exact .inl (hgap c hc)
      · exact .inr (List.mem_singleton.1 hc)
    · exact .inl (hblanks c hc)

theorem prefix_of_append_eq {us vs xs ys : List Char} {q : Char} (hq : q ∉ ys)
    (h : us ++ q :: vs = xs ++ ys) : us ++ [q] <+: xs := by
  rcases List.append_eq_append_iff.1 h with ⟨zs, rfl, htail⟩ | ⟨zs, rfl, htail⟩
  · cases zs with
    | nil =>
      rw [List.nil_append] at htail
      exact absurd (htail ▸ List.mem_cons_self) hq
    | cons z zs =>
      obtain ⟨rfl, -⟩ := List.cons.inj htail
      exact ⟨zs, by simp⟩
  · exact absurd (htail ▸ List.mem_append_right zs List.mem_cons_self) hq

/-- The normal form is cut off the collapsed text. -/
theorem normal_isPrefix (cs : List Char) : normal cs <+: collapse true cs := by
  rw [normal_eq, dropTerminator]
  split
  · exact (trimRight_isPrefix _).trans ((List.dropLast_prefix _).trans (trimRight_isPrefix _))
  · exact trimRight_isPrefix _

theorem tight_normal (cs : List Char) : Tight (normal cs) := by
  obtain ⟨rest, hrest⟩ := normal_isPrefix cs
  exact (hrest ▸ (tight_collapse true cs).1).left_of_append

theorem startsSolid_normal (cs : List Char) : StartsSolid (normal cs) := by
  obtain ⟨rest, hrest⟩ := normal_isPrefix cs
  exact (hrest ▸ (tight_collapse true cs).2 rfl).of_append

theorem isBlank_getLast?_normal (cs : List Char) :
    ∀ c ∈ (normal cs).getLast?, isBlank c = false := by
  rw [normal_eq, dropTerminator]
  split
  · exact isBlank_getLast?_trimRight _
  · exact isBlank_getLast?_trimRight _

theorem tight_significant_normal (cs : List Char) : Tight (significant (normal cs)) := by
  obtain ⟨gap, -, htrim⟩ := exists_eq_trimRight_append (spaced true (marked .code (normal cs)))
  rw [significant_eq]
  exact (htrim ▸ (tight_spaced .code (normal cs) (tight_normal cs) true).1).left_of_append

/-- A blank of a quoted piece shows in the normal form with what follows it up to a closing
quote. -/
theorem tight_shown {before after : List Char} {c : Char} (hblank : isBlank c = true)
    (hclosed : Closed (before ++ c :: after)) (hquoted : (scan .code before).after.isQuoted = true)
    (h : SameUpToTerminator (significant (normal (before ++ c :: after)))
      (significant (before ++ c :: after))) :
    ∃ piece q behind,
      spaced false (marked (scan .code before).after after) = piece ++ q :: behind ∧
        Tight (c :: piece ++ [q]) := by
  have hstay : (scan .code before).after.single c =
      ((scan .code before).after, (scan .code before).after) :=
    single_of_blank hblank fun hfeed => by
      rw [(Prod.mk.inj hfeed).2] at hquoted
      cases hquoted
  have htext : spaced true (marked .code (before ++ c :: after)) =
      spaced true (marked .code before) ++
        c :: spaced false (marked (scan .code before).after after) := by
    rw [marked_append (lone_of_blank hblank), marked_blank hblank, hstay, spaced_append,
      spaced_of_not_separates (separates_of_quoted hquoted)]
  have hends : (scan (scan .code before).after after).after.isQuoted = false := by
    have hafter : (scan .code (before ++ c :: after)).after =
        (scan (scan .code before).after after).after := by
      rw [after_append (lone_of_blank hblank), scan_single fun d _ => pair?_blank hblank, hstay,
        prepend_after]
    rw [← hafter]
    rcases hclosed with hcode | hcode <;> rw [hcode] <;> rfl
  obtain ⟨q, hq, hsolid, hsemicolon⟩ := exists_closing _ after hquoted hends false
  obtain ⟨piece, behind, hpiece⟩ := List.append_of_mem hq
  refine ⟨piece, q, behind, hpiece, ?_⟩
  -- The closing quote is neither a blank nor a semicolon, so that it is not in what was dropped.
  rw [significant_eq (before ++ c :: after)] at h
  obtain ⟨rest, hrest, hdropped⟩ := exists_append_of_same h
  have hkept : q ∉ rest := fun hmem => by
    rcases hdropped q hmem with hq | hq
    · rw [hsolid] at hq; cases hq
    · exact hsemicolon hq
  have hboth : (spaced true (marked .code before) ++ c :: piece) ++ q :: behind =
      significant (normal (before ++ c :: after)) ++ rest := by
    rw [← hrest, htext, hpiece]
    simp
  obtain ⟨tail, htail⟩ := prefix_of_append_eq hkept hboth
  have hwhole := tight_significant_normal (before ++ c :: after)
  rw [← htail, List.append_assoc (spaced true (marked .code before))] at hwhole
  exact hwhole.left_of_append.right_of_append

/-- Quoted pieces show in the significant text as they stand, so that they are tight if it is. -/
theorem quotesTight_of_same {cs : List Char} (hclosed : Closed cs)
    (h : SameUpToTerminator (significant (normal cs)) (significant cs)) :
    QuotesTight .code cs := by
  rintro before c after n rfl hn hquoted hblank
  rw [getElem?_modes_of_blank hblank] at hn
  cases hn
  obtain ⟨piece, q, behind, hpiece, htight⟩ := tight_shown hblank hclosed hquoted h
  obtain ⟨hspace, hstart⟩ := htight.1 hblank
  refine ⟨hspace, fun d hd => Bool.eq_false_iff.2 fun hdblank => ?_⟩
  -- A second blank would be quoted too and show behind the first one.
  obtain ⟨ds, rfl⟩ := List.head?_eq_some_iff.1 hd
  rw [marked_blank hdblank, spaced_of_not_separates (separates_of_quoted hquoted)] at hpiece
  have hd' : isBlank d = false := by
    cases piece with
    | nil =>
      obtain ⟨rfl, -⟩ := List.cons.inj hpiece
      exact hstart d rfl
    | cons e piece =>
      obtain ⟨rfl, -⟩ := List.cons.inj hpiece
      exact hstart d rfl
  rw [hdblank] at hd'
  cases hd'

/-- What stands behind the feed of a comment is lost in the normal form. -/
theorem length_significant_normal_le {before after : List Char}
    (hclosed : Closed (before ++ '\n' :: after)) (hline : (scan .code before).after = .line)
    (htight : QuotesTight .code (before ++ '\n' :: after)) :
    (significant (normal (before ++ '\n' :: after))).length ≤
      (spaced true (marked .code before)).length := by
  have hmarks : upToFeed .code (before ++ '\n' :: after) <+: marked .code before := by
    rw [upToFeed, marked_append (lone_of_blank (by decide)), hline, marked_blank (by decide),
      List.takeWhile_append]
    split
    · simp
    · exact List.takeWhile_prefix _
  calc (significant (normal (before ++ '\n' :: after))).length
    _ ≤ (significant (collapse true (before ++ '\n' :: after))).length := by
      rcases significant_normal hclosed with hsame | ⟨-, hsame⟩
      · exact Nat.le_of_eq (congrArg _ hsame)
      · exact length_le_of_same hsame
    _ ≤ (spaced true (marked .code (collapse true (before ++ '\n' :: after)))).length := by
      rw [significant_eq]
      exact (trimRight_isPrefix _).length_le
    _ = (spaced true (upToFeed .code (before ++ '\n' :: after))).length := by
      rw [spaced_collapse _ _ htight true true (fun _ => rfl) fun _ => .inl ⟨rfl, rfl⟩]
    _ ≤ (spaced true (marked .code before)).length := (spaced_isPrefix true hmarks).length_le

theorem commentsLast_of_same {cs : List Char} (hclosed : Closed cs)
    (h : SameUpToTerminator (significant (normal cs)) (significant cs)) : CommentsLast cs := by
  rintro before after rfl hmode
  rw [getElem?_modes_of_blank (by decide), Option.some.injEq] at hmode
  have hlength := length_significant_normal_le hclosed hmode (quotesTight_of_same hclosed h)
  by_cases hnone : significant after = []
  · exact .inl hnone
  · have hwhole : significant (before ++ '\n' :: after) =
        spaced true (marked .code before) ++ significant after := by
      rw [significant_eq after] at hnone ⊢
      rw [significant_eq, spaced_append_feed hmode, trimRight_append_of_ne_nil _ hnone]
    rcases h with hsame | ⟨gap, hgap, hsame⟩
    · rw [hsame, hwhole, List.length_append] at hlength
      exact .inl (List.length_eq_zero_iff.1 (by omega))
    · -- The part behind the feed is longer than the semicolon only by blanks it cannot begin with.
      have hsuffix : significant after <:+ gap ++ [';'] := by
        rw [List.append_assoc] at hsame
        have hboth := hwhole.symm.trans hsame
        have hlengths := congrArg List.length hboth
        simp only [List.length_append] at hlengths
        refine List.suffix_of_suffix_length_le (hboth ▸ List.suffix_append _ _)
          (List.suffix_append _ _) ?_
        rw [List.length_append]
        omega
      rcases List.suffix_concat_iff.1 hsuffix with hnil | ⟨ts, hts, hsub⟩
      · exact .inl hnil
      · have hstart := startsSolid_significant after
        cases ts with
        | nil => exact .inr hts
        | cons t ts =>
          rw [hts] at hstart
          have hsolid := hstart t rfl
          rw [hgap t (hsub.subset List.mem_cons_self)] at hsolid
          cases hsolid

/-- The text splits at the first feed of a comment, if there is one. -/
theorem exists_first_feed {cs : List Char} (h : ('\n', .line) ∈ marked .code cs) :
    ∃ before after, cs = before ++ '\n' :: after ∧ (scan .code before).after = .line ∧
      upToFeed .code cs = marked .code before := by
  obtain ⟨xs, ys, hmarks, hfirst⟩ := List.eq_append_cons_of_mem h
  have hcs : cs = xs.map Prod.fst ++ '\n' :: ys.map Prod.fst := by
    rw [← map_fst_marked .code cs, hmarks]
    simp
  refine ⟨xs.map Prod.fst, ys.map Prod.fst, hcs, ?_⟩
  have hcut : marked .code (xs.map Prod.fst) ++
      marked (scan .code (xs.map Prod.fst)).after ('\n' :: ys.map Prod.fst) =
        xs ++ ('\n', .line) :: ys := by
    rw [← marked_append (lone_of_blank (by decide)), ← hcs, hmarks]
  obtain ⟨hbefore, hfeed⟩ := List.append_inj hcut (by simp)
  rw [marked_blank (by decide)] at hfeed
  refine ⟨(Prod.mk.inj (List.cons.inj hfeed).1).2, ?_⟩
  rw [upToFeed, hmarks, hbefore, List.takeWhile_append_of_pos, List.takeWhile_cons_of_neg (by simp),
    List.append_nil]
  intro x hx
  simp only [decide_eq_true_eq]
  rintro rfl
  exact hfirst hx

theorem same_of_quotesTight {cs : List Char} (hclosed : Closed cs) (htight : QuotesTight .code cs)
    (hlast : CommentsLast cs) :
    SameUpToTerminator (significant (normal cs)) (significant cs) := by
  have hcollapse :
      significant (collapse true cs) = trimRight (spaced true (upToFeed .code cs)) := by
    rw [significant_eq,
      spaced_collapse _ _ htight true true (fun _ => rfl) fun _ => .inl ⟨rfl, rfl⟩]
  by_cases hfeed : ('\n', .line) ∈ marked .code cs
  · obtain ⟨before, after, hsplit, hline, hmarks⟩ := exists_first_feed hfeed
    have hnormal : significant (normal cs) = trimRight (spaced true (marked .code before)) := by
      rcases significant_normal hclosed with hsame | ⟨hcode, -⟩
      · rw [hsame, hcollapse, hmarks]
      · rw [after_collapse, if_pos hfeed] at hcode
        cases hcode
    have hwhole : significant cs =
        trimRight (spaced true (marked .code before) ++ spaced true (marked .code after)) := by
      rw [significant_eq, hsplit, spaced_append_feed hline]
    have hmode : (scan .code cs).modes[before.length]? = some .line := by
      rw [hsplit, getElem?_modes_of_blank (by decide), hline]
    rw [hnormal, hwhole]
    rcases hlast before after hsplit hmode with hnone | hterm
    · rw [significant_eq, trimRight_eq_nil] at hnone
      exact .inl (trimRight_append_of_blank _ hnone).symm
    · rw [significant_eq] at hterm
      obtain ⟨gap, hgap, hbefore⟩ :=
        exists_eq_trimRight_append (spaced true (marked .code before))
      refine .inr ⟨gap, hgap, ?_⟩
      rw [trimRight_append_of_ne_nil _ (by rw [hterm]; simp), hterm, ← hbefore]
  · have hmarks : upToFeed .code cs = marked .code cs := by
      rw [upToFeed, List.takeWhile_eq_self_iff]
      intro x hx
      simp only [decide_eq_true_eq]
      rintro rfl
      exact hfeed hx
    rw [hmarks, ← significant_eq] at hcollapse
    rw [← hcollapse]
    rcases significant_normal hclosed with hsame | ⟨-, hsame⟩
    · exact .inl hsame
    · exact hsame

/-- **When the normal form is the same statement.** For a text whose quotes and block comments are
closed, the significant text of the normal form is that of the text, or that without one semicolon
at its end and the blanks before it, if and only if quoted pieces hold no blanks but single spaces
and nothing significant but one semicolon stands behind the line of a comment. -/
theorem normalize_same_iff (sql : String) (hclosed : Closed sql.toList) :
    SameUpToTerminator (significant (normalize sql).toList) (significant sql.toList) ↔
      QuotesTight .code sql.toList ∧ CommentsLast sql.toList := by
  rw [normalize, String.toList_ofList]
  exact ⟨fun h => ⟨quotesTight_of_same hclosed h, commentsLast_of_same hclosed h⟩,
    fun h => same_of_quotesTight hclosed h.1 h.2⟩

/-- A comment before the last semicolon loses nothing; before a condition it takes the condition
away. -/
theorem same_before_semicolon_only :
    (QuotesTight .code "SELECT 'a b'\n -- c\n ;".toList ∧
      CommentsLast "SELECT 'a b'\n -- c\n ;".toList) ∧
      ¬ (QuotesTight .code "SELECT 1 -- c\nWHERE x".toList ∧
        CommentsLast "SELECT 1 -- c\nWHERE x".toList) := by
  have hkept : significant (normalize "SELECT 'a b'\n -- c\n ;").toList =
      "SELECT 'a b'".toList := by decide
  have hwhole : significant "SELECT 'a b'\n -- c\n ;".toList = "SELECT 'a b' ;".toList := by
    decide
  have hlost : significant (normalize "SELECT 1 -- c\nWHERE x").toList = "SELECT 1".toList := by
    decide
  have hother : significant "SELECT 1 -- c\nWHERE x".toList = "SELECT 1 WHERE x".toList := by
    decide
  refine ⟨(normalize_same_iff _ (.inl (by decide))).1 ?_,
    fun h => ?_⟩
  · rw [hkept, hwhole]
    exact .inr ⟨[' '], allBlank_gap false, by decide⟩
  · rcases (normalize_same_iff _ (.inl (by decide))).2 h with hsame | ⟨gap, -, hsame⟩
    · rw [hlost, hother] at hsame
      exact absurd hsame (by decide)
    · rw [hlost, hother] at hsame
      have hlast := congrArg List.getLast? hsame
      rw [List.getLast?_concat] at hlast
      exact absurd hlast (by decide)

end QueryBook.Normalize
