import Mathlib.Data.List.Nodup
import QueryBook.Binding.Bind

/-!
# Cutting a template at its tokens

Binding cuts a template into tokens and characters that stay. The code tries the parameters in
the order of `Template.byLength` and takes the first whose token begins at the current place;
`LongestCut` says the same without an order and without a scan: every token that was taken is
the longest that begins at its place, and no token begins at a character that stays. Such a cut
is unique (`LongestCut.unique`) and `Template.pieces` finds it (`pieces_longestCut`), so that
`bindParameters_longestCut` determines the bound text from the template alone.
-/

namespace QueryBook

variable {β γ : Type}

/-- The same piece with another value. -/
def Piece.map (f : β → γ) : Piece β → Piece γ
  | copied c => copied c
  | bound name value => bound name (f value)

namespace Template

/-! ## The text of pieces -/

@[simp] theorem fill_nil (f : List Char → β → List Char) : fill f [] = [] := rfl

@[simp] theorem fill_copied (f : List Char → β → List Char) (c : Char) (ps : List (Piece β)) :
    fill f (.copied c :: ps) = c :: fill f ps := rfl

@[simp] theorem fill_bound (f : List Char → β → List Char) (name : List Char) (value : β)
    (ps : List (Piece β)) : fill f (.bound name value :: ps) = f name value ++ fill f ps := rfl

@[simp] theorem fill_append (f : List Char → β → List Char) (ps qs : List (Piece β)) :
    fill f (ps ++ qs) = fill f ps ++ fill f qs :=
  List.flatMap_append

/-- The template that was cut. -/
def source (ps : List (Piece β)) : List Char :=
  fill (fun name _ => ':' :: name) ps

@[simp] theorem source_nil : source ([] : List (Piece β)) = [] := rfl

@[simp] theorem source_copied (c : Char) (ps : List (Piece β)) :
    source (.copied c :: ps) = c :: source ps := rfl

@[simp] theorem source_bound (name : List Char) (value : β) (ps : List (Piece β)) :
    source (.bound name value :: ps) = ':' :: (name ++ source ps) := rfl

@[simp] theorem source_append (ps qs : List (Piece β)) :
    source (ps ++ qs) = source ps ++ source qs :=
  fill_append _ ps qs

theorem fill_map (f : List Char → γ → List Char) (g : β → γ) (ps : List (Piece β)) :
    fill f (ps.map (Piece.map g)) = fill (fun name value => f name (g value)) ps := by
  induction ps with
  | nil => rfl
  | cons p ps ih => cases p <;> simp [Piece.map, ih]

theorem taken_map (g : β → γ) (ps : List (Piece β)) :
    taken (ps.map (Piece.map g)) = taken ps := by
  rw [taken, List.filterMap_map, taken]
  congr 1
  funext p
  cases p <;> rfl

/-- A name is taken if and only if one of the pieces is its token. -/
theorem mem_taken {name : List Char} {ps : List (Piece β)} :
    name ∈ taken ps ↔ ∃ value, .bound name value ∈ ps := by
  constructor
  · intro h
    obtain ⟨p, hp, hn⟩ := List.mem_filterMap.1 h
    cases p with
    | copied c => cases hn
    | bound n value => cases hn; exact ⟨value, hp⟩
  · rintro ⟨value, h⟩
    exact List.mem_filterMap.2 ⟨_, h, rfl⟩

/-! ## The longest token -/

theorem pairwise_byLength (params : List (List Char × β)) :
    (byLength params).Pairwise fun p q => q.1.length ≤ p.1.length := by
  have hsorted : (byLength params).Pairwise fun p q => decide (q.1.length ≤ p.1.length) = true :=
    List.pairwise_mergeSort
      (fun _ _ _ hab hbc => by simp only [decide_eq_true_eq] at *; omega)
      (fun _ _ => by simp only [Bool.or_eq_true, decide_eq_true_eq]; omega) params
  exact hsorted.imp of_decide_eq_true

/-- Of the parameters in `byLength` order the first whose name begins the text is a parameter
whose name no other beginning name exceeds. -/
theorem find?_byLength_some {params : List (List Char × β)} {cs : List Char}
    {p : List Char × β} (h : (byLength params).find? (fun p => p.1.isPrefixOf cs) = some p) :
    p ∈ params ∧ p.1 <+: cs ∧ ∀ q ∈ params, q.1 <+: cs → q.1.length ≤ p.1.length := by
  obtain ⟨hp, shorter, longer, hsplit, hshorter⟩ := List.find?_eq_some_iff_append.1 h
  have hmem : ∀ q, q ∈ params ↔ q ∈ shorter ++ p :: longer := fun q => by
    rw [← hsplit, byLength, List.mem_mergeSort]
  refine ⟨(hmem p).2 (by simp), List.isPrefixOf_iff_prefix.1 hp, fun q hq hqcs => ?_⟩
  have hsorted : (shorter ++ p :: longer).Pairwise fun p q => q.1.length ≤ p.1.length :=
    hsplit ▸ pairwise_byLength params
  rcases List.mem_append.1 ((hmem q).1 hq) with hq | hq
  · have := hshorter q hq
    simp [List.isPrefixOf_iff_prefix.2 hqcs] at this
  · rcases List.mem_cons.1 hq with rfl | hq
    · exact Nat.le_refl _
    · exact List.rel_of_pairwise_cons (List.pairwise_append.1 hsorted).2.1 hq

/-- A token is taken only at a colon, and it is the longest that begins there. -/
theorem token?_byLength_some {params : List (List Char × β)} {c : Char} {cs : List Char}
    {p : List Char × β} (h : token? (byLength params) c cs = some p) :
    c = ':' ∧ p ∈ params ∧ p.1 <+: cs ∧
      ∀ q ∈ params, q.1 <+: cs → q.1.length ≤ p.1.length := by
  unfold token? at h
  split at h
  · next hc => exact ⟨hc, find?_byLength_some h⟩
  · cases h

/-- Where no token is taken, none begins. -/
theorem token?_byLength_none {params : List (List Char × β)} {c : Char} {cs : List Char}
    (h : token? (byLength params) c cs = none) :
    ∀ p ∈ params, ¬ ':' :: p.1 <+: c :: cs := by
  intro p hp hpre
  obtain ⟨rfl, hname⟩ := List.cons_prefix_cons.1 hpre
  rw [token?, if_pos rfl, List.find?_eq_none] at h
  exact h p (List.mem_mergeSort.2 hp) (List.isPrefixOf_iff_prefix.2 hname)

/-! ## The cut -/

/-- A cut of a text in which every token is that of a parameter and the longest that begins at
its place, and in which no token begins at a copied character. -/
structure LongestCut (params : List (List Char × β)) (text : List Char)
    (ps : List (Piece β)) : Prop where
  source_eq : source ps = text
  mem : ∀ name value after, .bound name value :: after <:+ ps → (name, value) ∈ params
  longest : ∀ name value after, .bound name value :: after <:+ ps →
    ∀ p ∈ params, p.1 <+: name ++ source after → p.1.length ≤ name.length
  gap : ∀ c after, .copied c :: after <:+ ps → ∀ p ∈ params, ¬ ':' :: p.1 <+: c :: source after

namespace LongestCut

variable {params : List (List Char × β)}

theorem nil : LongestCut params [] [] :=
  ⟨rfl, by simp, by simp, by simp⟩

theorem copied {c : Char} {text : List Char} {ps : List (Piece β)}
    (hgap : ∀ p ∈ params, ¬ ':' :: p.1 <+: c :: text) (h : LongestCut params text ps) :
    LongestCut params (c :: text) (.copied c :: ps) where
  source_eq := by rw [source_copied, h.source_eq]
  mem name value after hs := by
    rcases List.suffix_cons_iff.1 hs with hs | hs
    · cases hs
    · exact h.mem name value after hs
  longest name value after hs := by
    rcases List.suffix_cons_iff.1 hs with hs | hs
    · cases hs
    · exact h.longest name value after hs
  gap d after hs := by
    rcases List.suffix_cons_iff.1 hs with hs | hs
    · cases hs; rwa [h.source_eq]
    · exact h.gap d after hs

theorem bound {name : List Char} {value : β} {text : List Char} {ps : List (Piece β)}
    (hmem : (name, value) ∈ params)
    (hlongest : ∀ p ∈ params, p.1 <+: name ++ text → p.1.length ≤ name.length)
    (h : LongestCut params text ps) :
    LongestCut params (':' :: (name ++ text)) (.bound name value :: ps) where
  source_eq := by rw [source_bound, h.source_eq]
  mem n v after hs := by
    rcases List.suffix_cons_iff.1 hs with hs | hs
    · cases hs; exact hmem
    · exact h.mem n v after hs
  longest n v after hs := by
    rcases List.suffix_cons_iff.1 hs with hs | hs
    · cases hs; rwa [h.source_eq]
    · exact h.longest n v after hs
  gap d after hs := by
    rcases List.suffix_cons_iff.1 hs with hs | hs
    · cases hs
    · exact h.gap d after hs

/-- The rest of a cut is a cut of the rest. -/
theorem tail {text : List Char} {p : Piece β} {ps : List (Piece β)}
    (h : LongestCut params text (p :: ps)) : LongestCut params (source ps) ps where
  source_eq := rfl
  mem name value after hs := h.mem name value after (hs.trans (List.suffix_cons _ _))
  longest name value after hs := h.longest name value after (hs.trans (List.suffix_cons _ _))
  gap c after hs := h.gap c after (hs.trans (List.suffix_cons _ _))

/-- A text has one cut at its longest tokens: two cuts agree on the first piece, since a token
of the one cannot begin at a copied character of the other and the longer of two tokens at one
place would refute the shorter. -/
theorem unique (hnd : (params.map Prod.fst).Nodup) :
    ∀ {ps qs : List (Piece β)} {text : List Char},
      LongestCut params text ps → LongestCut params text qs → ps = qs
  | [], [], _, _, _ => rfl
  | [], q :: qs, _, h, h' => by
    have := h.source_eq.trans h'.source_eq.symm
    cases q <;> simp at this
  | p :: ps, [], _, h, h' => by
    have := h.source_eq.trans h'.source_eq.symm
    cases p <;> simp at this
  | .copied c :: ps, .copied d :: qs, _, h, h' => by
    have heq : c :: source ps = d :: source qs := h.source_eq.trans h'.source_eq.symm
    obtain ⟨rfl, hrest⟩ := List.cons.inj heq
    rw [unique hnd h.tail (hrest ▸ h'.tail)]
  | .copied c :: ps, .bound name value :: qs, _, h, h' => by
    have heq : c :: source ps = ':' :: (name ++ source qs) := h.source_eq.trans h'.source_eq.symm
    have hmem := h'.mem name value qs List.suffix_rfl
    exact absurd (heq ▸ ⟨source qs, rfl⟩) (h.gap c ps List.suffix_rfl _ hmem)
  | .bound name value :: ps, .copied c :: qs, _, h, h' => by
    have heq : c :: source qs = ':' :: (name ++ source ps) := h'.source_eq.trans h.source_eq.symm
    have hmem := h.mem name value ps List.suffix_rfl
    exact absurd (heq ▸ ⟨source ps, rfl⟩) (h'.gap c qs List.suffix_rfl _ hmem)
  | .bound name value :: ps, .bound name' value' :: qs, _, h, h' => by
    have heq : name ++ source ps = name' ++ source qs :=
      (List.cons.inj (h.source_eq.trans h'.source_eq.symm)).2
    have hmem := h.mem name value ps List.suffix_rfl
    have hmem' := h'.mem name' value' qs List.suffix_rfl
    have hle := h.longest name value ps List.suffix_rfl _ hmem' ⟨source qs, heq.symm⟩
    have hle' := h'.longest name' value' qs List.suffix_rfl _ hmem ⟨source ps, heq⟩
    obtain ⟨rfl, hrest⟩ := List.append_inj heq (Nat.le_antisymm hle' hle)
    cases List.inj_on_of_nodup_map hnd hmem hmem' rfl
    rw [unique hnd h.tail (hrest ▸ h'.tail)]

end LongestCut

/-- Reading a template with the longer names first cuts it at its longest tokens. -/
theorem pieces_longestCut (params : List (List Char × β)) (text : List Char) :
    LongestCut params text (pieces (byLength params) text) := by
  fun_induction pieces (byLength params) text with
  | case1 => exact .nil
  | case2 c cs p htoken ih =>
    obtain ⟨rfl, hmem, ⟨rest, hrest⟩, hlongest⟩ := token?_byLength_some htoken
    have hdrop : cs.drop p.1.length = rest := by rw [← hrest, List.drop_left]
    rw [hdrop] at ih ⊢
    rw [← hrest] at hlongest ⊢
    exact .bound hmem hlongest ih
  | case3 c cs htoken ih => exact .copied (token?_byLength_none htoken) ih

end Template

end QueryBook
