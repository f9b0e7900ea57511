import QueryBook.Proofs.Binding.Bound
import QueryBook.Proofs.Binding.Insertion
import QueryBook.Proofs.Binding.Placeholder

/-!
# Texts bound into a query stay texts

A text parameter is inserted as one string literal. `texts_stay_strings` says that nothing in the
value can end that literal early or reach into the query around it: the inserted literal is read
as a string of its own that stands for the value, and every character of the template keeps the
mode it was read in. It asks of the template that tokens begin in code and touch neither each
other nor a single quote (`Apart`); a quote next to a literal would be read together with the
literal's own.
-/

namespace QueryBook.Binding

open Scan Template

/-- Parameters whose values are texts. -/
def texts (params : List (String × String)) : Params :=
  valued .text params

/-- Neighbouring pieces of which neither is a token next to another token or a single quote. -/
def Apart : Piece Value → Piece Value → Prop
  | .bound .., .bound .. => False
  | .bound .., .copied c => c ≠ '\''
  | .copied c, .bound .. => c ≠ '\''
  | .copied _, .copied _ => True

/-- A token of a text parameter with an identifier for a name. -/
def IsTextToken (name : List Char) (value : Value) : Prop :=
  Placeholder.IsName name ∧ ∃ s, value = .text s

theorem head?_inserted_of_apart {name : List Char} {value : Value} {ps : List (Piece Value)}
    (h : (Piece.bound name value :: ps).IsChain Apart) : (inserted ps).head? ≠ some '\'' := by
  rcases ps with _ | ⟨_ | _, ps⟩
  · simp [inserted]
  · have hne := (List.isChain_cons_cons.1 h).1
    simpa [inserted, Apart] using hne
  · exact (List.isChain_cons_cons.1 h).1.elim

theorem getLast?_inserted_of_apart {name : List Char} {value : Value}
    {before after : List (Piece Value)}
    (h : (before ++ .bound name value :: after).IsChain Apart) :
    (inserted before).getLast? ≠ some '\'' := by
  rcases List.eq_nil_or_concat before with rfl | ⟨init, last, rfl⟩
  · simp [inserted]
  · rw [List.concat_eq_append, List.append_assoc, List.singleton_append] at h
    have hlast := (List.isChain_append_cons_cons.1 h).2.1
    cases last with
    | copied c => simpa [inserted, Apart] using hlast
    | bound n v => exact hlast.elim

/-- The scans of a template and of its bound text go in step when text parameters are bound. -/
theorem aligned_texts {ps : List (Piece Value)} (hapart : ps.IsChain Apart)
    (htokens : ∀ name value, .bound name value ∈ ps → IsTextToken name value)
    (hcode : InCode .code ps) : Aligned (fun _ => literal) .string .code ps := by
  refine aligned_of_inCode (fun name value h => h.1.quiet) ?_ ?_ hapart htokens hcode
  · rintro c name value cs hapart ⟨-, s, rfl⟩ m d hd
    rw [literal_text] at hd
    cases hd
    exact pair?_eq_none (fun _ => by decide) (by decide) (fun hc => absurd hc hapart) (by decide)
  · rintro name value ps hchain ⟨-, s, rfl⟩ cs hcs
    rw [literal_text]
    exact scan_delimited s.toList fun hquote => head?_inserted_of_apart hchain (hcs _ hquote)

/-- **No injection through texts.** Let every token of the template that binding replaces begin
in code and touch neither another such token nor a single quote. Then, whatever the values hold,
binding succeeds and the bound text ends in the mode the template ends in; each copied character
is read in the mode it has in the template; and each inserted literal is one complete string
that stands for its parameter's value: the text before it ends in code, no quote stands on
either side, and the text behind it is read from code on. -/
theorem texts_stay_strings (sql : String) (params : List (String × String))
    (hnames : ∀ p ∈ params, Placeholder.IsName p.1.toList)
    (hcode : InCode .code (cut sql (texts params)))
    (hapart : (cut sql (texts params)).IsChain Apart) :
    ∃ bound, (bindParameters sql (texts params) false).result = .ok bound ∧
      (scan .code bound.toList).after = (scan .code sql.toList).after ∧
      (∀ before c after, cut sql (texts params) = before ++ .copied c :: after →
        (scan .code bound.toList).modes[(inserted before).length]? =
          (scan .code sql.toList).modes[(source before).length]?) ∧
      ∀ before name value after, cut sql (texts params) = before ++ .bound name value :: after →
        ∃ text, (String.ofList name, text) ∈ params ∧ value = .text text ∧
          stringText? (literal value) = some text.toList ∧
          bound.toList = inserted before ++ literal value ++ inserted after ∧
          (inserted before).getLast? ≠ some '\'' ∧ (inserted after).head? ≠ some '\'' ∧
          (scan .code (inserted before)).after = .code ∧
          scan .code bound.toList = (scan .code (inserted after)).prepend
            ((scan .code (inserted before)).modes ++ (literal value).map fun _ => .string) := by
  have htokens : ∀ name value, .bound name value ∈ cut sql (texts params) →
      ∃ text, (String.ofList name, text) ∈ params ∧ value = .text text :=
    fun name value hmem => exists_of_bound_mem_cut hmem
  have haligned : Aligned (fun _ => literal) .string .code (cut sql (texts params)) := by
    refine aligned_texts hapart (fun name value hmem => ?_) hcode
    obtain ⟨text, hparam, rfl⟩ := htokens name value hmem
    exact ⟨by simpa using hnames _ hparam, text, rfl⟩
  refine ⟨String.ofList (inserted (cut sql (texts params))), ?_, ?_, ?_, ?_⟩
  · exact lenient_result (renderable_valued renderable_text params) sql
  · rw [String.toList_ofList, ← source_cut sql (texts params)]
    exact haligned.after_eq
  · intro before c after hsplit
    rw [String.toList_ofList, ← source_cut sql (texts params)]
    exact haligned.copied_mode hsplit
  · intro before name value after hsplit
    obtain ⟨text, hparam, rfl⟩ := htokens name value (by simp [hsplit])
    obtain ⟨hafter, hreading⟩ := haligned.bound_reading hsplit
    rw [hsplit] at hapart
    refine ⟨text, hparam, rfl, ?_, ?_, getLast?_inserted_of_apart hapart,
      head?_inserted_of_apart hapart.right_of_append, hafter, ?_⟩
    · rw [literal_text, stringText?_delimited]
    · rw [String.toList_ofList, hsplit]; simp [inserted]
    · rw [String.toList_ofList]; exact hreading

/-- A value with a quote, a comment and a token in it, between a string that holds a colon and a
comment that is never closed. -/
theorem hostile_text_stays_string :
    ∃ bound, (bindParameters "':'=:n--'" (texts [("n", "O' -- :n")]) false).result = .ok bound ∧
      (scan .code bound.toList).after = .line := by
  have hcut : cut "':'=:n--'" (texts [("n", "O' -- :n")]) =
      [.copied '\'', .copied ':', .copied '\'', .copied '=', .bound ['n'] (.text "O' -- :n"),
        .copied '-', .copied '-', .copied '\''] := by
    simp [cut, named, texts, valued, byLength, pieces, token?]
  obtain ⟨bound, hbound, hafter, -⟩ := texts_stay_strings "':'=:n--'" [("n", "O' -- :n")]
    (by decide) (by rw [hcut]; decide) (by rw [hcut]; simp [Apart])
  exact ⟨bound, hbound, hafter.trans (by decide)⟩

end QueryBook.Binding
