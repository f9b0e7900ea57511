import Mathlib.Data.List.Chain
import QueryBook.Proofs.Binding.Cut
import QueryBook.Proofs.Scan

/-!
# Insertions that leave the rest of the text as it was read

The bound text and its template are two texts over one list of pieces. `Aligned` says that their
scans go through the pieces in step: a copied character is read alone in both or together with
the next copied character in both, and every token is met in code and left in code. From it
follow the three facts that a statement about insertions needs: both scans end in one mode
(`Aligned.after_eq`), a copied character has one mode in both (`Aligned.copied_mode`), and what
is inserted is read on its own (`Aligned.bound_reading`). `aligned_of_inCode` derives it from
conditions on the template: that the tokens begin in code, and that a token's neighbours and its
insertion do not combine.
-/

namespace QueryBook.Template

open Scan

variable {β : Type} {f : List Char → β → List Char} {label : Mode}

/-- The scans of the template and of the filled text go through the pieces in step from a mode
on, the insertions being read in the mode `label`. -/
inductive Aligned (f : List Char → β → List Char) (label : Mode) : Mode → List (Piece β) → Prop
  | nil {m : Mode} : Aligned f label m []
  | alone {m : Mode} {c : Char} {ps : List (Piece β)}
      (hsource : ∀ d ∈ (source ps).head?, m.pair? c d = none)
      (hfill : ∀ d ∈ (fill f ps).head?, m.pair? c d = none)
      (h : Aligned f label (m.single c).2 ps) : Aligned f label m (.copied c :: ps)
  | paired {m here next : Mode} {c d : Char} {ps : List (Piece β)}
      (hpair : m.pair? c d = some (here, next)) (h : Aligned f label next ps) :
      Aligned f label m (.copied c :: .copied d :: ps)
  | bound {name : List Char} {value : β} {ps : List (Piece β)} (hname : Quiet name)
      (hscan : ∀ cs, (∀ d ∈ cs.head?, d ∈ (fill f ps).head?) →
        scan .code (f name value ++ cs) =
          (scan .code cs).prepend ((f name value).map fun _ => label))
      (h : Aligned f label .code ps) : Aligned f label .code (.bound name value :: ps)

/-- A token is read in code when it is met in code. -/
theorem scan_token {name : List Char} (h : Quiet name) (cs : List Char) :
    scan .code (':' :: (name ++ cs)) =
      (scan .code cs).prepend ((':' :: name).map fun _ => .code) := by
  have htoken : Quiet (':' :: name) :=
    ⟨by decide, by decide, by decide, fun hc => absurd hc (by decide), h⟩
  exact scan_quiet htoken cs

theorem head?_fill_append {ps qs : List (Piece β)} {d : Char} (h : d ∈ (fill f ps).head?) :
    d ∈ (fill f (ps ++ qs)).head? := by
  rw [fill_append, List.head?_append, h]; rfl

namespace Aligned

/-- Both texts end in one mode. -/
theorem after_eq {m : Mode} {ps : List (Piece β)} (h : Aligned f label m ps) :
    (scan m (fill f ps)).after = (scan m (source ps)).after := by
  induction h with
  | nil => rfl
  | alone hsource hfill _ ih =>
    rw [fill_copied, source_copied, scan_single hsource, scan_single hfill]
    exact ih
  | paired hpair _ ih =>
    simp only [fill_copied, source_copied]
    rw [scan_pair hpair, scan_pair hpair]
    exact ih
  | bound hname hscan _ ih =>
    rw [fill_bound, source_bound, hscan _ fun _ hd => hd, scan_token hname]
    exact ih

/-- A copied character is read in one mode in both texts. -/
theorem copied_mode {m : Mode} {ps : List (Piece β)} (h : Aligned f label m ps) :
    ∀ {before after : List (Piece β)} {c : Char}, ps = before ++ .copied c :: after →
      (scan m (fill f ps)).modes[(fill f before).length]? =
        (scan m (source ps)).modes[(source before).length]? := by
  induction h with
  | nil => intro before after c hs; simp at hs
  | @alone m c ps hsource hfill _ ih =>
    intro before after d hs
    rw [fill_copied, source_copied, scan_single hsource, scan_single hfill]
    cases before with
    | nil => rfl
    | cons p before =>
      obtain ⟨rfl, rfl⟩ := List.cons.inj hs
      exact ih rfl
  | @paired m here next c d ps hpair _ ih =>
    intro before after e hs
    simp only [fill_copied, source_copied]
    rw [scan_pair hpair, scan_pair hpair]
    rcases before with _ | ⟨p, _ | ⟨q, before⟩⟩
    · rfl
    · simp only [List.cons_append, List.cons.injEq] at hs
      obtain ⟨rfl, -⟩ := hs
      rfl
    · simp only [List.cons_append, List.cons.injEq] at hs
      obtain ⟨rfl, rfl, hs⟩ := hs
      exact ih hs
  | @bound name value ps hname hscan _ ih =>
    intro before after c hs
    rw [fill_bound, source_bound]
    cases before with
    | nil => cases hs
    | cons p before =>
      obtain ⟨rfl, hrest⟩ := List.cons.inj hs
      have hfill := getElem?_modes_append (hscan _ fun _ hd => hd) (by simp) (fill f before).length
      have htoken : scan .code ((':' :: name) ++ source ps) = _ := scan_token hname (source ps)
      have hsource := getElem?_modes_append htoken (by simp) (source before).length
      rw [← List.length_append] at hfill hsource
      exact (hfill.trans (ih hrest)).trans hsource.symm

/-- What is inserted is read on its own: the text before it ends in code, it is read in its own
mode, and the text behind it begins in code. -/
theorem bound_reading {m : Mode} {ps : List (Piece β)} (h : Aligned f label m ps) :
    ∀ {before after : List (Piece β)} {name : List Char} {value : β},
      ps = before ++ .bound name value :: after →
      (scan m (fill f before)).after = .code ∧
        scan m (fill f ps) = (scan .code (fill f after)).prepend
          ((scan m (fill f before)).modes ++ (f name value).map fun _ => label) := by
  induction h with
  | nil => intro before after name value hs; simp at hs
  | @alone m c ps hsource hfill _ ih =>
    intro before after name value hs
    cases before with
    | nil => cases hs
    | cons p before =>
      obtain ⟨rfl, rfl⟩ := List.cons.inj hs
      have hbefore : ∀ d ∈ (fill f before).head?, m.pair? c d = none := fun d hd =>
        hfill d (head?_fill_append hd)
      obtain ⟨hafter, hscan⟩ := ih rfl
      rw [fill_copied, fill_copied, scan_single hfill, scan_single hbefore, hscan]
      exact ⟨hafter, prepend_prepend _ _ _⟩
  | @paired m here next c d ps hpair _ ih =>
    intro before after name value hs
    rcases before with _ | ⟨p, _ | ⟨q, before⟩⟩
    · cases hs
    · cases hs
    · simp only [List.cons_append, List.cons.injEq] at hs
      obtain ⟨rfl, rfl, hs⟩ := hs
      obtain ⟨hafter, hscan⟩ := ih hs
      simp only [fill_copied]
      rw [scan_pair hpair, scan_pair hpair, hscan]
      exact ⟨hafter, prepend_prepend _ _ _⟩
  | @bound name value ps hname hscan _ ih =>
    intro before after n v hs
    cases before with
    | nil =>
      obtain ⟨hp, rfl⟩ := List.cons.inj hs
      cases hp
      exact ⟨rfl, hscan _ fun _ hd => hd⟩
    | cons p before =>
      obtain ⟨rfl, rfl⟩ := List.cons.inj hs
      obtain ⟨hafter, hrest⟩ := ih rfl
      rw [fill_bound, fill_bound, hscan _ fun _ hd => hd, hscan _ fun _ hd => head?_fill_append hd,
        hrest, prepend_prepend, prepend_modes, List.append_assoc]
      exact ⟨hafter, rfl⟩

end Aligned

/-! ## Tokens in code -/

/-- Every token of the template begins in code, the template being read from the mode `m` on. -/
def InCode (m : Mode) (ps : List (Piece β)) : Prop :=
  ∀ before name value after, ps = before ++ .bound name value :: after →
    (scan m (source ps)).modes[(source before).length]? = some .code

/-- Whether the tokens of a template begin in code is decided piece by piece. -/
instance (m : Mode) (ps : List (Piece β)) : Decidable (InCode m ps) :=
  decidable_of_iff (∀ i : Fin ps.length, ps[i].name?.isSome →
      (scan m (source ps)).modes[(source (ps.take i)).length]? = some .code) <| by
    constructor
    · rintro h before name value after rfl
      simpa [Piece.name?] using h ⟨before.length, by simp⟩
    · intro h i hi
      cases hp : ps[i] with
      | copied c => rw [hp] at hi; cases hi
      | bound name value =>
        refine h (ps.take i) name value (ps.drop (i + 1)) ?_
        have hsplit : ps.take i ++ ps[i] :: ps.drop (i + 1) = ps := by
          rw [Fin.getElem_fin, ← List.drop_eq_getElem_cons, List.take_append_drop]
        rw [← hp, hsplit]

/-- Tokens in code stay in code when the text before them is dropped, if it was read on its
own. -/
theorem InCode.tail {m m' : Mode} (qs : List (Piece β)) {ps : List (Piece β)} {ms : List Mode}
    (h : InCode m (qs ++ ps))
    (hscan : scan m (source qs ++ source ps) = (scan m' (source ps)).prepend ms)
    (hlen : ms.length = (source qs).length) : InCode m' ps := by
  intro before name value after hs
  have hcode := h (qs ++ before) name value after (by rw [hs, List.append_assoc])
  rw [source_append, source_append, List.length_append, getElem?_modes_append hscan hlen] at hcode
  exact hcode

/-- Scans are aligned where the tokens begin in code and neighbouring pieces are related so that
no character before a token combines with what is inserted (`hbefore`) and what is inserted is
read on its own (`hscan`). -/
theorem aligned_of_inCode {R : Piece β → Piece β → Prop} {Fits : List Char → β → Prop}
    (hname : ∀ name value, Fits name value → Quiet name)
    (hbefore : ∀ c name value cs, R (.copied c) (.bound name value) → Fits name value →
      ∀ m : Mode, ∀ d ∈ (f name value ++ cs).head?, m.pair? c d = none)
    (hscan : ∀ name value ps, (Piece.bound name value :: ps).IsChain R → Fits name value →
      ∀ cs, (∀ d ∈ cs.head?, d ∈ (fill f ps).head?) → scan .code (f name value ++ cs) =
        (scan .code cs).prepend ((f name value).map fun _ => label)) :
    ∀ {m : Mode} {ps : List (Piece β)}, ps.IsChain R →
      (∀ name value, .bound name value ∈ ps → Fits name value) → InCode m ps →
      Aligned f label m ps
  | m, [], _, _, _ => .nil
  | m, .bound name value :: ps, hchain, hfits, hcode => by
    have hm : m = .code := eq_code_of_head (hcode [] name value ps rfl)
    subst hm
    have hquiet := hname _ _ (hfits name value List.mem_cons_self)
    refine .bound hquiet (hscan _ _ _ hchain (hfits name value List.mem_cons_self)) ?_
    refine aligned_of_inCode hname hbefore hscan hchain.tail
      (fun n v h => hfits n v (List.mem_cons_of_mem _ h)) ?_
    exact InCode.tail [.bound name value] hcode
      (by simpa using scan_token hquiet (source ps)) (by simp)
  | m, [.copied c], _, _, _ => .alone (by simp) (by simp) .nil
  | m, .copied c :: .bound name value :: ps, hchain, hfits, hcode => by
    have hcolon : ∀ d ∈ (source (.bound name value :: ps)).head?, m.pair? c d = none := by
      intro d hd
      cases hd
      exact pair?_colon m c
    have hfit := hfits name value (List.mem_cons_of_mem _ List.mem_cons_self)
    refine .alone hcolon (hbefore c name value _ (List.isChain_cons_cons.1 hchain).1 hfit m) ?_
    refine aligned_of_inCode hname hbefore hscan hchain.tail
      (fun n v h => hfits n v (List.mem_cons_of_mem _ h)) ?_
    exact InCode.tail [.copied c] hcode (scan_single hcolon) rfl
  | m, .copied c :: .copied d :: ps, hchain, hfits, hcode => by
    cases hpair : m.pair? c d with
    | some p =>
      refine .paired hpair ?_
      refine aligned_of_inCode hname hbefore hscan hchain.tail.tail
        (fun n v h => hfits n v (List.mem_cons_of_mem _ (List.mem_cons_of_mem _ h))) ?_
      exact InCode.tail [.copied c, .copied d] hcode (scan_pair hpair _) rfl
    | none =>
      have halone : ∀ e ∈ (some d : Option Char), m.pair? c e = none := by simp [hpair]
      refine .alone halone halone ?_
      refine aligned_of_inCode hname hbefore hscan hchain.tail
        (fun n v h => hfits n v (List.mem_cons_of_mem _ h)) ?_
      exact InCode.tail [.copied c] hcode (scan_single halone) rfl

end QueryBook.Template
