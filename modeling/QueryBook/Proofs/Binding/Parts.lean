import QueryBook.Proofs.Binding.Strict

/-!
# Binding part by part

A cut at the longest tokens can itself be cut between any two of its pieces: the pieces on either
side are the cut of the text on that side (`LongestCut.left`, `LongestCut.right`), because nothing
that is taken or left there looks across. So what is bound before a token, and what is bound behind
it, is what these texts are bound to on their own (`result_left`, `result_right`). A placeholder that
is named like a parameter is one token of the cut, which gives `placeholder_bound_whole`: its literal
stands for the whole of it, whatever the other parameters are called.
-/

namespace QueryBook

open Template

namespace Template.LongestCut

variable {β : Type} {params : List (List Char × β)} {text : List Char} {us vs : List (Piece β)}

/-- The pieces on the left are the cut of their own text. -/
theorem left (h : LongestCut params text (us ++ vs)) : LongestCut params (source us) us := by
  have hsuffix : ∀ {p : Piece β} {after}, p :: after <:+ us → p :: (after ++ vs) <:+ us ++ vs := by
    rintro p after ⟨before, rfl⟩
    exact ⟨before, by simp⟩
  refine ⟨rfl, fun name value after hs => ?_, fun name value after hs p hp hpre => ?_,
    fun c after hs p hp hpre => ?_⟩
  · exact h.mem name value _ (hsuffix hs)
  · refine h.longest name value _ (hsuffix hs) p hp (hpre.trans ?_)
    rw [source_append, ← List.append_assoc]
    exact List.prefix_append _ _
  · refine h.gap c _ (hsuffix hs) p hp (hpre.trans ?_)
    rw [source_append, ← List.cons_append]
    exact List.prefix_append _ _

/-- The pieces on the right are the cut of their own text. -/
theorem right (h : LongestCut params text (us ++ vs)) : LongestCut params (source vs) vs := by
  induction us generalizing text with
  | nil => exact h.source_eq ▸ h
  | cons u us ih => exact ih h.tail

end Template.LongestCut

namespace Binding

variable {params : Params}

/-- What a text is bound to can be read off any cut of it at its longest tokens. -/
theorem result_of_longestCut (hnames : (params.map Prod.fst).Nodup)
    (hvalues : ∀ p ∈ params, Renderable p.2) {text : List Char} {ps : List (Piece Value)}
    (h : LongestCut (named params) text ps) :
    (bindParameters (String.ofList text) params false).result =
      .ok (String.ofList (inserted ps)) := by
  rw [← String.toList_ofList (l := text)] at h
  rw [lenient_result hvalues, eq_cut hnames h]

/-- In either mode, a text that is returned is the lenient one. -/
theorem eq_inserted_of_result (hvalues : ∀ p ∈ params, Renderable p.2) {sql text : String}
    {strict : Bool} (h : (bindParameters sql params strict).result = .ok text) :
    text = String.ofList (inserted (cut sql params)) := by
  rw [bindParameters_result hvalues] at h
  split at h
  · cases h
  · exact (Except.ok.inj h).symm

/-- **A placeholder is bound to its own parameter.** A placeholder that is named like a parameter
is replaced as a whole by the literal of this parameter: the bound text is what the text before it is
bound to, the literal, and what the text behind it is bound to. So it is in strict mode, if that
returns a text. -/
theorem placeholder_bound_whole (sql : String) (params : Params)
    (hnames : ∀ p ∈ params, Placeholder.IsName p.1.toList) (hnodup : (params.map Prod.fst).Nodup)
    (hvalues : ∀ p ∈ params, Renderable p.2) :
    ∀ us vs name value, sql.toList = us ++ ':' :: vs →
      Placeholder.at? us.getLast? ':' vs = some name → (String.ofList name, value) ∈ params →
        ∃ rest front back literal, vs = name ++ rest ∧ renderLiteral value = .ok literal ∧
          (bindParameters (String.ofList us) params false).result = .ok front ∧
          (bindParameters (String.ofList rest) params false).result = .ok back ∧
          (bindParameters sql params false).result = .ok (front ++ literal ++ back) ∧
          ∀ text, (bindParameters sql params true).result = .ok text →
            text = front ++ literal ++ back := by
  intro us vs name value hsql hat hmem
  have hcut := cut_longestCut sql params
  rw [hsql] at hcut
  have hnamed : (name, value) ∈ named params := by simpa using mem_named hmem
  obtain ⟨before, value', after, hsplit, rfl, rfl, hmem'⟩ :=
    hcut.whole_placeholder (isName_named hnames) hat hnamed
  obtain rfl : value' = value := by
    have hpair := List.inj_on_of_nodup_map (nodup_named hnodup) hmem' hnamed rfl
    exact (Prod.mk.inj hpair).2
  rw [hsplit] at hcut
  have hright : LongestCut (named params) (source after) after := hcut.right.tail
  have hinserted : String.ofList (inserted (cut sql params)) =
      String.ofList (inserted before) ++ String.ofList (literal value') ++
        String.ofList (inserted after) := by
    rw [hsplit, inserted, fill_append, fill_bound, inserted, inserted, String.ofList_append,
      String.ofList_append, String.append_assoc]
  refine ⟨source after, _, _, _, rfl, hvalues _ hmem, result_of_longestCut hnodup hvalues hcut.left,
    result_of_longestCut hnodup hvalues hright, ?_, fun text htext => ?_⟩
  · rw [lenient_result hvalues, hinserted]
  · rw [← hinserted]
    exact eq_inserted_of_result hvalues htext

/-- A placeholder that begins with the name of another parameter, behind a cast that is named like
one, with a value that looks like a token. -/
theorem longer_placeholder_whole :
    Placeholder.at? "x::id = ".toList.getLast? ':' "idx".toList = some "idx".toList ∧
      ∃ front, (bindParameters "x::id = " [("id", .number (.int 7)), ("idx", .text ":id")]
          false).result = .ok front ∧
        (bindParameters "x::id = :idx" [("id", .number (.int 7)), ("idx", .text ":id")]
          false).result = .ok (front ++ "':id'" ++ "") := by
  have hat : Placeholder.at? "x::id = ".toList.getLast? ':' "idx".toList = some "idx".toList := by
    decide
  obtain ⟨rest, front, back, literal, hrest, hliteral, hfront, hback, hresult, -⟩ :=
    placeholder_bound_whole "x::id = :idx" [("id", .number (.int 7)), ("idx", .text ":id")]
      (by decide) (by decide) (by simp [renderable_text, renderable_number]) _ _ _ (.text ":id") rfl
      hat (by simp)
  obtain rfl : rest = [] := by simpa using hrest
  have hnone : (bindParameters "" [("id", .number (.int 7)), ("idx", .text ":id")] false).result =
      .ok "" := by decide +kernel
  obtain rfl : back = "" := Except.ok.inj (hback.symm.trans hnone)
  obtain rfl : literal = "':id'" := Except.ok.inj (hliteral.symm.trans (by decide))
  exact ⟨hat, front, hfront, hresult⟩

end Binding

end QueryBook
