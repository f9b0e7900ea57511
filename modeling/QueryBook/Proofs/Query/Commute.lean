import QueryBook.Proofs.Binding.Parts
import QueryBook.Proofs.Number.Text
import QueryBook.Proofs.Query.Normalization

/-!
# Normalizing and binding

Blanks, and the semicolon that normalization drops, are neither part of a name nor do they stand
between a colon and a name, so that a text and its normal form have the same placeholders
(`names_normal`). The same holds for the tokens of parameters: normalizing the pieces of a cut like
characters (`Template.normalized`) gives the cut of the normal form (`LongestCut.normalized`). What
is filled in for the tokens does not matter to this as long as it has no blanks, is not empty and
does not end in a semicolon (`Firm`); literals are of this kind if they have no blanks. So normalizing
before binding and after it come to the same (`normalize_bind`).
-/

namespace QueryBook

open Text Template

/-! ## Blanks and names -/

/-- No blank is a word character. -/
theorem Text.isWordChar_of_isBlank {c : Char} (h : isBlank c = true) : isWordChar c = false := by
  have hall : ∀ r ∈ blanks, ∀ n ∈ List.range' r.1 (r.2 + 1 - r.1),
      isWordChar (Char.ofNat n) = false := by
    decide +kernel
  obtain ⟨r, hr, hlow, hhigh⟩ := (CharTable.contains_iff blanks c).1 h
  have hc := hall r hr c.toNat (List.mem_range'_1.2 ⟨hlow, by omega⟩)
  rwa [Char.ofNat_toNat] at hc

theorem Text.isBlank_of_isWordChar {c : Char} (h : isWordChar c = true) : isBlank c = false := by
  rw [Bool.eq_false_iff]
  intro hblank
  rw [isWordChar_of_isBlank hblank] at h
  cases h

theorem Text.startsName_of_not_word {c : Char} (h : isWordChar c = false) : startsName c = false := by
  rw [Bool.eq_false_iff]
  intro hstarts
  rw [Placeholder.isWordChar_of_startsName hstarts] at h
  cases h

/-- A word ends where something else begins. -/
theorem Text.takeWhile_append_of_not_word {vs : List Char}
    (h : ∀ c ∈ vs.head?, isWordChar c = false) (us : List Char) :
    (us ++ vs).takeWhile isWordChar = us.takeWhile isWordChar := by
  induction us with
  | nil =>
    cases vs with
    | nil => rfl
    | cons c vs => simp [h c rfl]
  | cons u us ih => rw [List.cons_append, List.takeWhile_cons, List.takeWhile_cons, ih]

theorem Text.takeWhile_append_congr (us : List Char) {vs ws : List Char}
    (h : vs.takeWhile isWordChar = ws.takeWhile isWordChar) :
    (us ++ vs).takeWhile isWordChar = (us ++ ws).takeWhile isWordChar := by
  induction us with
  | nil => exact h
  | cons u us ih =>
    rw [List.cons_append, List.cons_append, List.takeWhile_cons, List.takeWhile_cons, ih]

namespace Normalize

/-- Collapsing keeps the word that a text begins with. -/
theorem takeWhile_collapse (cs : List Char) :
    (collapse false cs).takeWhile isWordChar = cs.takeWhile isWordChar := by
  induction cs with
  | nil => rfl
  | cons c cs ih =>
    cases hc : isBlank c with
    | true =>
      have hspace : isWordChar ' ' = false := by decide
      rw [collapse_blank hc]
      simp [isWordChar_of_isBlank hc, hspace]
    | false => rw [collapse_solid hc, List.takeWhile_cons, List.takeWhile_cons, ih]

/-- Behind the normal form, the collapsed text has only blanks and semicolons. -/
theorem exists_normal_append (cs : List Char) :
    ∃ rest, collapse true cs = normal cs ++ rest ∧ ∀ c ∈ rest, isBlank c = true ∨ c = ';' := by
  obtain ⟨gap, hgap, htrim⟩ := exists_eq_trimRight_append (collapse true cs)
  rw [normal_eq, dropTerminator]
  split
  · next hlast =>
    obtain ⟨us, hus⟩ := List.getLast?_eq_some_iff.1 hlast
    obtain ⟨blanks, hblanks, hinner⟩ := exists_eq_trimRight_append us
    refine ⟨blanks ++ [';'] ++ gap, ?_, ?_⟩
    · rw [hus, List.dropLast_concat]
      rw [hus] at htrim
      rw [htrim]
      nth_rewrite 1 [hinner]
      simp
    · intro c hc
      simp only [List.mem_append, List.mem_singleton] at hc
      rcases hc with (hc | hc) | hc
      · exact .inl (hblanks c hc)
      · exact .inr hc
      · exact .inl (hgap c hc)
  · exact ⟨gap, htrim, fun c hc => .inl (hgap c hc)⟩

end Normalize

open Normalize

/-! ## Placeholders of the normal form -/

namespace Placeholder

theorem opensAfter_blank {c : Char} (h : isBlank c = true) : opensAfter (some c) = true := by
  have hcolon : c ≠ ':' := by
    rintro rfl
    exact absurd h (by decide)
  simp [opensAfter, hcolon, isWordChar_of_isBlank h]

/-- What is found at a place depends on the character ahead only by whether it opens. -/
theorem occurrences_congr {before before' : Option Char}
    (h : opensAfter before = opensAfter before') (cs : List Char) :
    occurrences before cs = occurrences before' cs := by
  cases cs with
  | nil => rfl
  | cons c cs => rw [occurrences, occurrences, at?, at?, h]

theorem at?_blank {c : Char} (h : isBlank c = true) (before : Option Char) (cs : List Char) :
    at? before c cs = none := by
  have hcolon : c ≠ ':' := by
    rintro rfl
    exact absurd h (by decide)
  simp [at?, hcolon]

theorem at?_collapse (before : Option Char) (c : Char) (cs : List Char) :
    at? before c (collapse false cs) = at? before c cs := by
  have hstarts : (collapse false cs).head?.any startsName = cs.head?.any startsName := by
    cases cs with
    | nil => rfl
    | cons d ds =>
      cases hd : isBlank d with
      | false => rw [collapse_solid hd]; rfl
      | true =>
        have hspace : startsName ' ' = false := by decide
        rw [collapse_blank hd]
        simp [hspace, startsName_of_not_word (isWordChar_of_isBlank hd)]
  rw [at?, at?, hstarts, takeWhile_collapse]

theorem occurrences_collapse (r : Bool) (before : Option Char) (cs : List Char)
    (hr : r = true → opensAfter before = true) :
    occurrences before (collapse r cs) = occurrences before cs := by
  induction cs generalizing r before with
  | nil => rfl
  | cons c cs ih =>
    cases hc : isBlank c with
    | false =>
      rw [collapse_solid hc, occurrences, occurrences, at?_collapse, ih false _ nofun]
    | true =>
      have hskip : occurrences before (c :: cs) = occurrences (some c) cs := by
        rw [occurrences, at?_blank hc]
        rfl
      rw [collapse_blank hc, hskip]
      cases r with
      | true =>
        rw [if_pos rfl, List.nil_append, ih true before hr,
          occurrences_congr ((hr rfl).trans (opensAfter_blank hc).symm)]
      | false =>
        rw [if_neg (by simp), List.singleton_append, occurrences, at?_blank (by decide),
          Option.toList_none, List.nil_append, ih true _ fun _ => by decide,
          occurrences_congr (((by decide : opensAfter (some ' ') = true)).trans
            (opensAfter_blank hc).symm)]

/-- Where neither a colon nor a word character stands, nothing more is found. -/
theorem occurrences_append {us vs : List Char} (hcolon : ':' ∉ vs)
    (hvs : ∀ c ∈ vs.head?, isWordChar c = false) (before : Option Char) :
    occurrences before (us ++ vs) = occurrences before us := by
  have hstarts : ∀ ws : List Char, (ws ++ vs).head?.any startsName = ws.head?.any startsName := by
    intro ws
    cases ws with
    | cons => rfl
    | nil =>
      cases vs with
      | nil => rfl
      | cons c vs => simp [startsName_of_not_word (hvs c rfl)]
  induction us generalizing before with
  | nil =>
    refine List.eq_nil_iff_forall_not_mem.2 fun name hname => ?_
    obtain ⟨us, c, ws, hsplit, hat⟩ := mem_occurrences.1 hname
    obtain ⟨rfl, -⟩ := at?_eq_some.1 hat
    exact hcolon (by simp only [List.nil_append] at hsplit; simp [hsplit])
  | cons u us ih =>
    have hat : at? before u (us ++ vs) = at? before u us := by
      rw [at?, at?, hstarts, takeWhile_append_of_not_word hvs]
    rw [List.cons_append, occurrences, occurrences, hat, ih]

/-- A text and its normal form have the same placeholders. -/
theorem names_normal (cs : List Char) : names (normal cs) = names cs := by
  obtain ⟨rest, hrest, hend⟩ := exists_normal_append cs
  have hcolon : ':' ∉ rest := by
    intro hmem
    rcases hend _ hmem with h | h
    · exact absurd h (by decide)
    · exact absurd h (by decide)
  have hword : ∀ c ∈ rest.head?, isWordChar c = false := by
    intro c hc
    rcases hend c (List.mem_of_head? hc) with h | rfl
    · exact isWordChar_of_isBlank h
    · decide
  rw [names, names, ← occurrences_append hcolon hword, ← hrest, occurrences_collapse _ _ _ fun _ => rfl]

end Placeholder

/-! ## Pieces in normal form -/

/-- Whether a piece is a blank that stays. -/
def Piece.isBlank {β : Type} : Piece β → Bool
  | copied c => Text.isBlank c
  | bound .. => false

/-- Whether a piece is a semicolon that stays. -/
def Piece.isSemicolon {β : Type} : Piece β → Bool
  | copied c => c == ';'
  | bound .. => false

namespace Template

variable {β : Type} {f : List Char → β → List Char} {ps qs : List (Piece β)}

/-- The pieces with each run of blanks replaced by one space, as in texts. -/
def collapsed (inRun : Bool) : List (Piece β) → List (Piece β)
  | [] => []
  | .bound name value :: ps => .bound name value :: collapsed false ps
  | .copied c :: ps =>
    if isBlank c then
      if inRun then collapsed true ps else .copied ' ' :: collapsed true ps
    else .copied c :: collapsed false ps

/-- The pieces without the blanks at their end. -/
def trimmed (ps : List (Piece β)) : List (Piece β) :=
  ps.rdropWhile Piece.isBlank

/-- The pieces without a semicolon at their end and the blanks before that. -/
def unterminated (ps : List (Piece β)) : List (Piece β) :=
  if ps.getLast?.any Piece.isSemicolon then trimmed ps.dropLast else ps

/-- The pieces normalized as texts are. -/
def normalized (ps : List (Piece β)) : List (Piece β) :=
  unterminated (trimmed (collapsed true ps))

/-- What the tokens are replaced by is not empty, has no blanks and does not end in a semicolon. -/
def Firm (f : List Char → β → List Char) (ps : List (Piece β)) : Prop :=
  ∀ name value, .bound name value ∈ ps →
    f name value ≠ [] ∧ (∀ c ∈ f name value, isBlank c = false) ∧ (f name value).getLast? ≠ some ';'

theorem Firm.of_subset (h : Firm f ps) (hsub : qs ⊆ ps) : Firm f qs :=
  fun name value hmem => h name value (hsub hmem)

theorem collapse_fill (h : Firm f ps) (r : Bool) :
    collapse r (fill f ps) = fill f (collapsed r ps) := by
  induction ps generalizing r with
  | nil => rfl
  | cons p ps ih =>
    have hrest := h.of_subset (List.subset_cons_self p ps)
    cases p with
    | bound name value =>
      obtain ⟨hne, hsolid, -⟩ := h name value List.mem_cons_self
      rw [fill_bound, collapse_append_solid hne hsolid, ih hrest, collapsed, fill_bound]
    | copied c =>
      cases hc : isBlank c with
      | false => simp [collapsed, collapse_solid hc, hc, ih hrest]
      | true => cases r <;> simp [collapsed, collapse_blank hc, hc, ih hrest]

/-- Collapsing adds no token. -/
theorem bound_mem_collapsed {r : Bool} {name : List Char} {value : β} :
    .bound name value ∈ collapsed r ps ↔ .bound name value ∈ ps := by
  induction ps generalizing r with
  | nil => rfl
  | cons p ps ih =>
    cases p with
    | bound n v => simp [collapsed, ih]
    | copied c => cases hc : isBlank c <;> cases r <;> simp [collapsed, hc, ih]

theorem Firm.collapsed (h : Firm f ps) (r : Bool) : Firm f (collapsed r ps) :=
  fun name value hmem => h name value (bound_mem_collapsed.1 hmem)

theorem trimmed_isPrefix (ps : List (Piece β)) : trimmed ps <+: ps :=
  List.rdropWhile_prefix Piece.isBlank ps

theorem trimRight_fill (h : Firm f ps) : trimRight (fill f ps) = fill f (trimmed ps) := by
  induction ps using List.reverseRecOn with
  | nil => rfl
  | append_singleton ps p ih =>
    have hrest := h.of_subset (List.subset_append_left ps [p])
    rw [fill_append, trimmed]
    cases p with
    | copied c =>
      cases hc : isBlank c with
      | true =>
        have hblank : AllBlank (fill f [.copied c]) := fun d hd => by
          rw [List.mem_singleton.1 hd]
          exact hc
        rw [trimRight_append_of_blank _ hblank, ih hrest, List.rdropWhile_concat_pos Piece.isBlank ps (.copied c) hc,
          trimmed]
      | false =>
        rw [List.rdropWhile_concat_neg _ _ _ (by simp [Piece.isBlank, hc]), fill_append]
        exact trimRight_concat _ hc
    | bound name value =>
      obtain ⟨hne, hsolid, -⟩ := h name value (by simp)
      rw [List.rdropWhile_concat_neg _ _ _ (by simp [Piece.isBlank]), fill_append, fill_bound, fill_nil,
        List.append_nil, ← List.dropLast_append_getLast hne, ← List.append_assoc]
      exact trimRight_concat _ (hsolid _ (List.getLast_mem hne))

theorem dropTerminator_fill (h : Firm f ps) :
    dropTerminator (fill f ps) = fill f (unterminated ps) := by
  rcases List.eq_nil_or_concat ps with rfl | ⟨init, p, rfl⟩
  · rfl
  · rw [List.concat_eq_append] at h ⊢
    have hinit := h.of_subset (List.subset_append_left init [p])
    rw [unterminated, List.getLast?_concat, List.dropLast_concat, dropTerminator, fill_append]
    cases p with
    | copied c =>
      rw [fill_copied, fill_nil, List.getLast?_concat, List.dropLast_concat]
      by_cases hc : c = ';'
      · subst hc
        rw [if_pos rfl, if_pos (by rfl), trimRight_fill hinit]
      · rw [if_neg (by simpa using hc), if_neg (by simp [Piece.isSemicolon, hc]), fill_append]
        rfl
    | bound name value =>
      obtain ⟨hne, -, hlast⟩ := h name value (by simp)
      rw [fill_bound, fill_nil, List.append_nil, List.getLast?_append_of_ne_nil _ hne, if_neg hlast,
        if_neg (by simp [Piece.isSemicolon]), fill_append, fill_bound, fill_nil, List.append_nil]

/-- Normalizing the pieces normalizes the text, whatever is filled in. -/
theorem normal_fill (h : Firm f ps) : normal (fill f ps) = fill f (normalized ps) := by
  have hcollapsed := h.collapsed true
  have htrimmed := hcollapsed.of_subset (trimmed_isPrefix (Template.collapsed true ps)).subset
  rw [normal_eq, collapse_fill h, trimRight_fill hcollapsed, dropTerminator_fill htrimmed, normalized]

theorem normalized_isPrefix (ps : List (Piece β)) : normalized ps <+: collapsed true ps := by
  rw [normalized, unterminated]
  split
  · exact (trimmed_isPrefix _).trans ((List.dropLast_prefix _).trans (trimmed_isPrefix _))
  · exact trimmed_isPrefix _

/-! ## Cuts of the normal form -/

theorem firm_token {params : List (List Char × β)} {text : List Char}
    (h : LongestCut params text ps) (hnames : ∀ p ∈ params, Placeholder.IsName p.1) :
    Firm (fun name _ => ':' :: name) ps := by
  intro name value hmem
  obtain ⟨before, after, hsplit⟩ := List.append_of_mem hmem
  have hname := hnames _ (h.mem name value after ⟨before, hsplit.symm⟩)
  refine ⟨List.cons_ne_nil _ _, List.forall_mem_cons.2 ⟨by decide, fun c hc => ?_⟩, fun hlast => ?_⟩
  · exact isBlank_of_isWordChar (hname.word c hc)
  · rcases List.mem_cons.1 (List.mem_of_getLast? hlast) with hc | hc
    · exact absurd hc (by decide)
    · exact absurd (hname.word _ hc) (by decide)

/-- Collapsing a cut of words gives the cut of the collapsed text. -/
theorem LongestCut.collapsed {params : List (List Char × β)}
    (hnames : ∀ p ∈ params, Placeholder.IsName p.1) {text : List Char} (h : LongestCut params text ps)
    (r : Bool) : LongestCut params (source (collapsed r ps)) (collapsed r ps) := by
  have hbegins : ∀ {qs : List (Piece β)} {cs : List Char}, LongestCut params cs qs →
      ∀ (us : List Char), ∀ p ∈ params,
        p.1 <+: us ++ source (Template.collapsed false qs) → p.1 <+: us ++ source qs := by
    intro qs cs hcut us p hp hpre
    have hsource : source (Template.collapsed false qs) = collapse false (source qs) :=
      (collapse_fill (firm_token hcut hnames) false).symm
    rw [← (hnames p hp).prefix_takeWhile] at hpre ⊢
    rwa [hsource, takeWhile_append_congr us (takeWhile_collapse (source qs))] at hpre
  induction ps generalizing text r with
  | nil => exact .nil
  | cons p ps ih =>
    cases p with
    | bound name value =>
      refine .bound (h.mem name value ps List.suffix_rfl) (fun p hp hpre => ?_) (ih h.tail false)
      exact h.longest name value ps List.suffix_rfl p hp (hbegins h.tail name p hp hpre)
    | copied c =>
      cases hc : isBlank c with
      | false =>
        rw [Template.collapsed, hc, if_neg (by simp)]
        refine .copied (fun p hp hpre => ?_) (ih h.tail false)
        obtain rfl := (List.cons_prefix_cons.1 hpre).1
        have hname : p.1 <+: [] ++ source (Template.collapsed false ps) :=
          (List.cons_prefix_cons.1 hpre).2
        exact h.gap _ ps List.suffix_rfl p hp
          (List.cons_prefix_cons.2 ⟨rfl, hbegins h.tail [] p hp hname⟩)
      | true =>
        rw [Template.collapsed, hc, if_pos rfl]
        cases r with
        | true => exact ih h.tail true
        | false =>
          refine .copied (fun p hp hpre => ?_) (ih h.tail true)
          exact absurd (List.cons_prefix_cons.1 hpre).1 (by decide)

/-- Normalizing a cut of words gives the cut of the normal form. -/
theorem LongestCut.normalized {params : List (List Char × β)}
    (hnames : ∀ p ∈ params, Placeholder.IsName p.1) {text : List Char} (h : LongestCut params text ps) :
    LongestCut params (normal text) (normalized ps) := by
  have hsource : source (Template.normalized ps) = normal text := by
    rw [← h.source_eq]
    exact (normal_fill (firm_token h hnames)).symm
  obtain ⟨rest, hrest⟩ := normalized_isPrefix ps
  have hcollapsed := h.collapsed hnames true
  rw [← hrest] at hcollapsed
  exact hsource ▸ hcollapsed.left

end Template

namespace Binding

/-- Literals without blanks are not empty and do not end in a semicolon. -/
theorem firm_literal {ps : List (Piece Value)}
    (hvalues : ∀ name value, .bound name value ∈ ps → Renderable value)
    (hsolid : ∀ name value, .bound name value ∈ ps → ∀ c ∈ literal value, isBlank c = false) :
    Firm (fun _ value => literal value) ps := by
  intro name value hmem
  have hends : literal value ≠ [] ∧ (literal value).getLast? ≠ some ';' := by
    rcases value with s | n | k
    · simp [delimited, List.getLast?_cons]
    · rw [literal_number]
      refine ⟨(Number.spelled_text n).ne_nil, fun hlast => ?_⟩
      exact absurd ((Number.spelled_text n).mark _ (List.mem_of_getLast? hlast)) (by decide)
    · cases hvalues _ _ hmem
  exact ⟨hends.1, hsolid name value hmem, hends.2⟩

end Binding

open Binding

/-- **Normalizing is transparent to binding.** The normal form of a text has the same placeholders in
the same order. If the parameters have names and their literals have no blanks, the normal form is
bound to the normal form of what the text is bound to. -/
theorem normalize_bind (sql : String) :
    findPlaceholders (normalize sql) = findPlaceholders sql ∧
      ∀ params : Params, (∀ p ∈ params, Placeholder.IsName p.1.toList) →
        (params.map Prod.fst).Nodup → (∀ p ∈ params, Renderable p.2) →
        (∀ p ∈ params, ∀ c ∈ literal p.2, isBlank c = false) →
          ∃ bound, (bindParameters sql params false).result = .ok bound ∧
            (bindParameters (normalize sql) params false).result = .ok (normalize bound) := by
  refine ⟨?_, fun params hnames hnodup hvalues hsolid => ?_⟩
  · rw [findPlaceholders, normalize, String.toList_ofList, Placeholder.names_normal, findPlaceholders]
  · have hfirm : Firm (fun _ value => literal value) (cut sql params) :=
      firm_literal (fun _ _ hmem => hvalues _ (mem_of_bound_mem_cut hmem))
        (fun _ _ hmem => hsolid _ (mem_of_bound_mem_cut hmem))
    have hcut := (cut_longestCut sql params).normalized (isName_named hnames)
    refine ⟨_, lenient_result hvalues sql, ?_⟩
    rw [normalize, result_of_longestCut hnodup hvalues hcut, normalize, String.toList_ofList,
      inserted, inserted, normal_fill hfirm]

/-- A placeholder before the semicolon that is dropped, with a text that ends in a semicolon, behind
a token that begins a longer name. -/
theorem normalize_bind_at_end :
    findPlaceholders (normalize "\n a = :ab\t;\n") = ["ab"] ∧
      ∃ bound, (bindParameters "\n a = :ab\t;\n" [("ab", .text "x;"), ("a", .number (.int 1))]
          false).result = .ok bound ∧
        (bindParameters (normalize "\n a = :ab\t;\n") [("ab", .text "x;"), ("a", .number (.int 1))]
          false).result = .ok (normalize bound) := by
  have hplaceholders : findPlaceholders "\n a = :ab\t;\n" = ["ab"] := by decide
  obtain ⟨hsame, hbound⟩ := normalize_bind "\n a = :ab\t;\n"
  refine ⟨hsame.trans hplaceholders, hbound _ (by decide) (by decide)
    (by simp [renderable_text, renderable_number]) ?_⟩
  have hsolid : ∀ {t : List Char}, t.all (!isBlank ·) = true → ∀ c ∈ t, isBlank c = false :=
    fun h c hc => by simpa using List.all_eq_true.1 h c hc
  refine List.forall_mem_cons.2 ⟨?_, List.forall_mem_singleton.2 ?_⟩
  · rw [literal_text]
    exact hsolid (by decide)
  · rw [literal_number]
    exact hsolid (by decide)

end QueryBook
