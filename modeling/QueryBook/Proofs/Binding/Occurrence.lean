import QueryBook.Proofs.Binding.Cut
import QueryBook.Proofs.Binding.Placeholder

/-!
# Placeholders in a cut template

Binding looks for the tokens of its parameters anywhere in a template, whereas a placeholder is a
colon in a certain place with a maximal name. `LongestCut.run` says what becomes of a colon and the
word run behind it in a cut whose parameters have words for names: either the colon stays, and then
no parameter's name begins the run, or a token is taken there, and then it is the longest parameter
name that does. A run that is named like a parameter is thus taken as a whole
(`LongestCut.whole_run`), and so is a placeholder (`LongestCut.whole_placeholder`). The reason is
that words hold no colon, so that every colon of a template begins a piece (`split_at_colon`).
-/

namespace QueryBook

open Text

/-- A word begins a text if and only if it begins the word run of the text. -/
theorem prefix_takeWhile_isWordChar {name : List Char} (h : ∀ c ∈ name, isWordChar c = true)
    {cs : List Char} : name <+: cs.takeWhile isWordChar ↔ name <+: cs := by
  constructor
  · exact fun hname => hname.trans (List.takeWhile_prefix _)
  · rintro ⟨rest, rfl⟩
    rw [List.takeWhile_append_of_pos h]
    exact List.prefix_append _ _

theorem Placeholder.IsName.prefix_takeWhile {name : List Char} (h : IsName name)
    {cs : List Char} : name <+: cs.takeWhile isWordChar ↔ name <+: cs :=
  prefix_takeWhile_isWordChar h.word

namespace Template

open Placeholder

variable {β : Type}

/-- A colon begins a piece, unless it is inside what a token is replaced by. -/
theorem split_at_colon {f : List Char → β → List Char} {ps : List (Piece β)}
    (hf : ∀ name value, .bound name value ∈ ps → ':' ∉ (f name value).tail) {us vs : List Char}
    (h : fill f ps = us ++ ':' :: vs) :
    ∃ before p after, ps = before ++ p :: after ∧ us = fill f before ∧
      ':' :: vs = p.fill f ++ fill f after := by
  induction ps generalizing us with
  | nil => simp at h
  | cons p ps ih =>
    have hrest := fun name value hmem => hf name value (List.mem_cons_of_mem p hmem)
    have hp : ':' ∉ (p.fill f).tail := by
      cases p with
      | copied c => simp [Piece.fill]
      | bound name value => exact hf name value List.mem_cons_self
    have hcons : ∀ qs, fill f (p :: qs) = p.fill f ++ fill f qs := fun _ => List.flatMap_cons
    rw [hcons] at h
    rcases List.append_eq_append_iff.1 h with ⟨w, rfl, hw⟩ | ⟨w, hus, hw⟩
    -- The colon is behind the first piece, or else it begins the piece or what follows the piece.
    · obtain ⟨before, q, after, rfl, rfl, hq⟩ := ih hrest hw
      exact ⟨p :: before, q, after, rfl, (hcons before).symm, hq⟩
    · cases us with
      | nil => exact ⟨[], p, ps, rfl, rfl, by rw [hw, hus, List.nil_append]⟩
      | cons u us =>
        cases w with
        | nil =>
          have hnext : fill f ps = [] ++ ':' :: vs := hw.symm
          obtain ⟨before, q, after, rfl, hnil, hq⟩ := ih hrest hnext
          refine ⟨p :: before, q, after, rfl, ?_, hq⟩
          rw [hcons, ← hnil, hus, List.append_nil, List.append_nil]
        | cons d w =>
          obtain ⟨rfl, -⟩ := List.cons.inj hw
          exact absurd (by simp [hus]) hp

namespace LongestCut

variable {params : List (List Char × β)} {ps : List (Piece β)} {us vs name : List Char}

/-- The colon of a template before a word run is either left, and no parameter's name begins the
run, or begun by a token, the longest of the parameters' names that begin the run. -/
theorem run (h : LongestCut params (us ++ ':' :: vs) ps)
    (hnames : ∀ p ∈ params, ∀ c ∈ p.1, isWordChar c = true) :
    (∃ before after, ps = before ++ .copied ':' :: after ∧ us = source before ∧
        vs = source after ∧ ∀ p ∈ params, ¬ p.1 <+: vs.takeWhile isWordChar) ∨
      ∃ before token value after, ps = before ++ .bound token value :: after ∧
        us = source before ∧ vs = token ++ source after ∧ (token, value) ∈ params ∧
        token <+: vs.takeWhile isWordChar ∧
        ∀ p ∈ params, p.1 <+: vs.takeWhile isWordChar → p.1.length ≤ token.length := by
  have hcolon : ∀ token value, .bound token value ∈ ps → ':' ∉ (':' :: token).tail := by
    intro token value hmem hc
    obtain ⟨before, after, hsplit⟩ := List.append_of_mem hmem
    exact ne_of_isWordChar (hnames _ (h.mem token value after ⟨before, hsplit.symm⟩) ':' hc)
      (by decide) rfl
  obtain ⟨before, p, after, rfl, hus, hp⟩ := split_at_colon hcolon h.source_eq
  cases p with
  | copied c =>
    obtain ⟨rfl, rfl⟩ := List.cons.inj hp
    refine .inl ⟨before, after, rfl, hus, rfl, fun p hp hname => ?_⟩
    have hgap := h.gap ':' after (List.suffix_append _ _) p hp
    exact hgap (List.cons_prefix_cons.2
      ⟨rfl, (prefix_takeWhile_isWordChar (hnames p hp)).1 hname⟩)
  | bound token value =>
    obtain ⟨-, rfl⟩ := List.cons.inj hp
    have hmem := h.mem token value after (List.suffix_append _ _)
    refine .inr ⟨before, token, value, after, rfl, hus, rfl, hmem, ?_, fun p hp hname => ?_⟩
    · exact (prefix_takeWhile_isWordChar (hnames _ hmem)).2 ⟨source after, rfl⟩
    · exact h.longest token value after (List.suffix_append _ _) p hp
        ((prefix_takeWhile_isWordChar (hnames p hp)).1 hname)

/-- A word run behind a colon that is named like a parameter is taken as a whole. -/
theorem whole_run (h : LongestCut params (us ++ ':' :: vs) ps)
    (hnames : ∀ p ∈ params, ∀ c ∈ p.1, isWordChar c = true) {value : β}
    (hmem : (vs.takeWhile isWordChar, value) ∈ params) :
    ∃ before value after, ps = before ++ .bound (vs.takeWhile isWordChar) value :: after ∧
      us = source before ∧ vs = vs.takeWhile isWordChar ++ source after ∧
      (vs.takeWhile isWordChar, value) ∈ params := by
  rcases h.run hnames with ⟨-, -, -, -, -, hnone⟩ |
    ⟨before, token, value', after, hsplit, hus, hvs, htoken, hpre, hlongest⟩
  · exact absurd List.prefix_rfl (hnone _ hmem)
  · have hle := hlongest _ hmem List.prefix_rfl
    obtain rfl : token = vs.takeWhile isWordChar :=
      hpre.eq_of_length (Nat.le_antisymm hpre.length_le hle)
    exact ⟨before, value', after, hsplit, hus, hvs, htoken⟩

/-- A placeholder of a template is either left with its colon, and no parameter's name begins its
name, or begun by a token, the longest of the parameters' names that begin its name. -/
theorem placeholder (h : LongestCut params (us ++ ':' :: vs) ps)
    (hnames : ∀ p ∈ params, IsName p.1) (hat : at? us.getLast? ':' vs = some name) :
    (∃ before after, ps = before ++ .copied ':' :: after ∧ us = source before ∧
        vs = source after ∧ ∀ p ∈ params, ¬ p.1 <+: name) ∨
      ∃ before token value after, ps = before ++ .bound token value :: after ∧
        us = source before ∧ vs = token ++ source after ∧ (token, value) ∈ params ∧
        token <+: name ∧ ∀ p ∈ params, p.1 <+: name → p.1.length ≤ token.length := by
  obtain ⟨-, -, -, rfl⟩ := at?_eq_some.1 hat
  exact h.run fun p hp => (hnames p hp).word

/-- A placeholder that is named like a parameter is taken as a whole. -/
theorem whole_placeholder (h : LongestCut params (us ++ ':' :: vs) ps)
    (hnames : ∀ p ∈ params, IsName p.1) (hat : at? us.getLast? ':' vs = some name) {value : β}
    (hmem : (name, value) ∈ params) :
    ∃ before value after, ps = before ++ .bound name value :: after ∧ us = source before ∧
      vs = name ++ source after ∧ (name, value) ∈ params := by
  obtain ⟨-, -, -, rfl⟩ := at?_eq_some.1 hat
  exact h.whole_run (fun p hp => (hnames p hp).word) hmem

end LongestCut

end Template

end QueryBook
