import Mathlib.Data.List.Basic

/-!
# Patterns with backtracking

A pattern is tried at a place of a text and gives the ways in which it matches there, in the order
in which a search with backtracking would try them (`Pattern.ways`): greedy repetition tries the
longest run first, lazy repetition the shortest, and an alternative its first branch. The match is
the first way, and `findAll` goes through a text from match to match.

The lemmas say when there is no choice left: a greedy run that is followed by something that cannot
begin with another character of the run is the maximal one (`ways_seq_most`, `ways_seq_run`), and a
lazy run before a condition ends where the condition first holds (`head?_ways_fewest`).
-/

namespace QueryBook.Text

/-- A place in a text: what is before it, the nearest character first, and what is behind it. -/
structure Place where
  before : List Char
  rest : List Char

namespace Place

/-- The place behind some characters. -/
def advance (x : Place) (taken : List Char) : Place :=
  ⟨taken.reverse ++ x.before, x.rest.drop taken.length⟩

/-- Whether a line begins at a place: at the start of the text or behind a line feed. -/
def startsLine (x : Place) : Bool :=
  x.before.head?.all (· == '\n')

/-- Whether a line ends at a place: at the end of the text or before a line feed. -/
def endsLine (x : Place) : Bool :=
  x.rest.head?.all (· == '\n')

@[simp] theorem advance_nil (x : Place) : x.advance [] = x := rfl

theorem advance_cons (c : Char) (b us cs : List Char) :
    advance ⟨b, c :: cs⟩ (c :: us) = advance ⟨c :: b, cs⟩ us := by
  simp [advance]

@[simp] theorem advance_append (b us cs : List Char) :
    advance ⟨b, us ++ cs⟩ us = ⟨us.reverse ++ b, cs⟩ := by
  simp [advance]

end Place

/-- One way to match: the characters taken, and those of the groups, in order. -/
structure Way where
  taken : List Char
  groups : List (List Char)

namespace Way

/-- One way after another. -/
def append (v w : Way) : Way :=
  ⟨v.taken ++ w.taken, v.groups ++ w.groups⟩

/-- Taking nothing. -/
def stay : Way :=
  ⟨[], []⟩

@[simp] theorem stay_append (w : Way) : stay.append w = w := rfl

theorem append_assoc (u v w : Way) : (u.append v).append w = u.append (v.append w) := by
  simp [append]

theorem map_stay_append (ws : List Way) : ws.map stay.append = ws :=
  List.map_id ws

theorem map_append_map (u v : Way) (ws : List Way) :
    (ws.map v.append).map u.append = ws.map (u.append v).append := by
  simp [Function.comp_def, append_assoc]

end Way

/-- A pattern over characters. -/
inductive Pattern where
  | empty
  /-- One character of a class. -/
  | one (p : Char → Bool)
  | seq (first second : Pattern)
  | either (first second : Pattern)
  /-- As many characters of a class as possible. -/
  | most (p : Char → Bool)
  /-- As few characters of a class as possible. -/
  | fewest (p : Char → Bool)
  | lineStart
  | lineEnd
  | textEnd
  /-- A condition on what follows, which is not taken. -/
  | ahead (condition : Pattern)
  /-- What is taken is remembered. -/
  | group (body : Pattern)

/-- The runs of a class that a text begins with, the shortest first. -/
def runs (p : Char → Bool) : List Char → List (List Char)
  | [] => [[]]
  | c :: cs => [] :: if p c then (runs p cs).map (c :: ·) else []

namespace Pattern

/-- The ways in which a pattern matches at a place, in the order in which they are tried. -/
def ways : Pattern → Place → List Way
  | empty, _ => [.stay]
  | one p, x =>
    match x.rest with
    | [] => []
    | c :: _ => if p c then [⟨[c], []⟩] else []
  | seq a b, x => (a.ways x).flatMap fun w => (b.ways (x.advance w.taken)).map w.append
  | either a b, x => a.ways x ++ b.ways x
  | most p, x => (runs p x.rest).reverse.map (⟨·, []⟩)
  | fewest p, x => (runs p x.rest).map (⟨·, []⟩)
  | lineStart, x => if x.startsLine then [.stay] else []
  | lineEnd, x => if x.endsLine then [.stay] else []
  | textEnd, x => if x.rest.isEmpty then [.stay] else []
  | ahead a, x => if (a.ways x).isEmpty then [] else [.stay]
  | group a, x => (a.ways x).map fun w => ⟨w.taken, w.taken :: w.groups⟩

attribute [local simp] runs ways

/-- Whether a pattern matches at a place. -/
def fits (a : Pattern) (x : Place) : Bool :=
  !(a.ways x).isEmpty

/-- The matches of a pattern from a place on: the first way at the first place where there is one,
and then those behind what it took, or behind one character if it took nothing. -/
def findAll (a : Pattern) (before : List Char) : List Char → List Way
  | [] => (a.ways ⟨before, []⟩).head?.toList
  | c :: cs =>
    match (a.ways ⟨before, c :: cs⟩).head? with
    | none => findAll a (c :: before) cs
    | some w =>
      let n := w.taken.length - 1
      w :: findAll a ((c :: cs.take n).reverse ++ before) (cs.drop n)
  termination_by cs => cs.length
  decreasing_by
    · simp
    · simp only [List.length_drop, List.length_cons]
      omega

/-- Exactly the given characters. -/
def text : List Char → Pattern
  | [] => empty
  | c :: cs => seq (one (· == c)) (text cs)

/-- At least one character of a class, and as many as possible. -/
def plus (p : Char → Bool) : Pattern :=
  seq (one p) (most p)

/-- The pattern, if it matches, or nothing. -/
def opt (a : Pattern) : Pattern :=
  either a empty

/-! ## One pattern before another -/

theorem ways_seq (a b : Pattern) (x : Place) :
    (seq a b).ways x = (a.ways x).flatMap fun w => (b.ways (x.advance w.taken)).map w.append :=
  rfl

theorem ways_seq_lineStart {x : Place} (h : x.startsLine = true) (b : Pattern) :
    (seq lineStart b).ways x = b.ways x := by
  simp only [ways, h, if_true, List.flatMap_singleton]
  exact Way.map_stay_append _

theorem ways_seq_lineStart_eq_nil {x : Place} (h : x.startsLine = false) (b : Pattern) :
    (seq lineStart b).ways x = [] := by
  simp [h]

theorem ways_text (us : List Char) (x : Place) :
    (text us).ways x = if us.isPrefixOf x.rest then [⟨us, []⟩] else [] := by
  obtain ⟨b, cs⟩ := x
  induction us generalizing b cs with
  | nil => rfl
  | cons u us ih =>
    cases cs with
    | nil => rfl
    | cons c cs =>
      by_cases hc : c = u
      · have hplace : Place.advance ⟨b, u :: cs⟩ [u] = ⟨[u] ++ b, cs⟩ :=
          Place.advance_append b [u] cs
        subst hc
        simp only [text, ways_seq, ways, beq_self_eq_true, if_true, List.flatMap_singleton, hplace,
          ih, List.isPrefixOf_cons_cons, Bool.true_and]
        split <;> rfl
      · have hne : (u == c) = false := by simpa using Ne.symm hc
        simp [text, hc, hne, List.isPrefixOf]

theorem ways_seq_text (us b cs : List Char) (k : Pattern) :
    (seq (text us) k).ways ⟨b, us ++ cs⟩ =
      (k.ways ⟨us.reverse ++ b, cs⟩).map (Way.append ⟨us, []⟩) := by
  have hprefix : us.isPrefixOf (us ++ cs) = true :=
    List.isPrefixOf_iff_prefix.2 (List.prefix_append us cs)
  simp [ways_text, hprefix]

theorem ways_seq_text_eq_nil {us : List Char} {x : Place} (h : ¬ us <+: x.rest) (k : Pattern) :
    (seq (text us) k).ways x = [] := by
  have hprefix : us.isPrefixOf x.rest = false := by
    rw [Bool.eq_false_iff, ne_eq, List.isPrefixOf_iff_prefix]
    exact h
  simp [ways_text, hprefix]

/-! ## Greedy runs -/

/-- Of the runs, the longest first, only the maximal one counts if no other can be continued. -/
theorem flatMap_runs {α : Type} (p : Char → Bool) (cs : List Char) (f : List Char → List α)
    (h : ∀ us c vs, cs = us ++ c :: vs → p c = true → f us = []) :
    (runs p cs).reverse.flatMap f = f (cs.takeWhile p) := by
  induction cs generalizing f with
  | nil => simp
  | cons c cs ih =>
    cases hc : p c with
    | false => simp [hc]
    | true =>
      have hnil : f [] = [] := h [] c cs rfl hc
      have hrest := ih (fun us => f (c :: us)) fun us d vs hsplit hd =>
        h (c :: us) d vs (by rw [hsplit]; rfl) hd
      rw [runs, if_pos hc, List.reverse_cons, List.flatMap_append, ← List.map_reverse,
        List.flatMap_map, hrest, List.takeWhile_cons_of_pos hc]
      simp [hnil]

theorem flatMap_runs_tail {α : Type} (p : Char → Bool) (cs : List Char) (f : List Char → List α)
    (h : ∀ us c vs, cs = us ++ c :: vs → p c = true → f us = []) :
    (runs p cs).tail.reverse.flatMap f =
      if cs.takeWhile p = [] then [] else f (cs.takeWhile p) := by
  cases cs with
  | nil => simp
  | cons c cs =>
    cases hc : p c with
    | false => simp [hc]
    | true =>
      have hrest := flatMap_runs p cs (fun us => f (c :: us)) fun us d vs hsplit hd =>
        h (c :: us) d vs (by rw [hsplit]; rfl) hd
      rw [runs, if_pos hc, List.tail_cons, ← List.map_reverse, List.flatMap_map, hrest,
        List.takeWhile_cons_of_pos hc, if_neg (List.cons_ne_nil _ _)]

/-- A pattern that takes a run of a class that is not empty, the longest first, and remembers
`tag` of it. -/
def IsRun (a : Pattern) (p : Char → Bool) (tag : List Char → List (List Char)) : Prop :=
  ∀ x, a.ways x = (runs p x.rest).tail.reverse.map fun us => ⟨us, tag us⟩

theorem isRun_plus (p : Char → Bool) : IsRun (plus p) p fun _ => [] := by
  rintro ⟨b, cs⟩
  cases cs with
  | nil => rfl
  | cons c cs =>
    cases hc : p c with
    | false => simp [plus, hc]
    | true =>
      have hplace : Place.advance ⟨b, c :: cs⟩ [c] = ⟨[c] ++ b, cs⟩ :=
        Place.advance_append b [c] cs
      simp [plus, hc, hplace, Way.append, Function.comp_def]

theorem isRun_group_plus (p : Char → Bool) : IsRun (group (plus p)) p fun us => [us] := by
  intro x
  rw [ways, isRun_plus]
  simp [Function.comp_def]

theorem place_of_split {cs us vs : List Char} {c : Char} (h : cs = us ++ c :: vs) (b : List Char) :
    Place.advance ⟨b, cs⟩ us = ⟨us.reverse ++ b, c :: vs⟩ := by
  rw [h, Place.advance_append]

theorem advance_takeWhile (p : Char → Bool) (b cs : List Char) :
    Place.advance ⟨b, cs⟩ (cs.takeWhile p) = ⟨(cs.takeWhile p).reverse ++ b, cs.dropWhile p⟩ := by
  have hadvance := Place.advance_append b (cs.takeWhile p) (cs.dropWhile p)
  rwa [List.takeWhile_append_dropWhile] at hadvance

/-- A greedy run is maximal if what follows cannot begin with a character of the run. -/
theorem ways_seq_most {p : Char → Bool} {k : Pattern}
    (h : ∀ b c cs, p c = true → k.ways ⟨b, c :: cs⟩ = []) (b cs : List Char) :
    (seq (most p) k).ways ⟨b, cs⟩ =
      (k.ways ⟨(cs.takeWhile p).reverse ++ b, cs.dropWhile p⟩).map
        (Way.append ⟨cs.takeWhile p, []⟩) := by
  rw [ways_seq, ways, List.flatMap_map, flatMap_runs, advance_takeWhile]
  intro us c vs hsplit hc
  rw [place_of_split hsplit, h _ _ _ hc, List.map_nil]

theorem ways_seq_run {a k : Pattern} {p : Char → Bool} {tag : List Char → List (List Char)}
    (ha : IsRun a p tag) (h : ∀ b c cs, p c = true → k.ways ⟨b, c :: cs⟩ = [])
    (b cs : List Char) :
    (seq a k).ways ⟨b, cs⟩ = if cs.takeWhile p = [] then [] else
      (k.ways ⟨(cs.takeWhile p).reverse ++ b, cs.dropWhile p⟩).map
        (Way.append ⟨cs.takeWhile p, tag (cs.takeWhile p)⟩) := by
  rw [ways_seq, ha, List.flatMap_map, flatMap_runs_tail, advance_takeWhile]
  intro us c vs hsplit hc
  rw [place_of_split hsplit, h _ _ _ hc, List.map_nil]

/-! ## Texts without a match -/

theorem fits_eq_false {a : Pattern} {x : Place} : a.fits x = false ↔ a.ways x = [] := by
  simp [fits]

/-- A pattern matches at none of the places before the characters `us` of the text `us ++ cs`. -/
def Misses (a : Pattern) (b us cs : List Char) : Prop :=
  ∀ pre suf, us = pre ++ suf → suf ≠ [] → a.fits ⟨pre.reverse ++ b, suf ++ cs⟩ = false

theorem Misses.head {a : Pattern} {u : Char} {b us cs : List Char} (h : Misses a b (u :: us) cs) :
    a.fits ⟨b, u :: (us ++ cs)⟩ = false :=
  h [] (u :: us) rfl (List.cons_ne_nil _ _)

theorem Misses.tail {a : Pattern} {u : Char} {b us cs : List Char} (h : Misses a b (u :: us) cs) :
    Misses a (u :: b) us cs := by
  intro pre suf hus hsuf
  have hfits := h (u :: pre) suf (by rw [hus]; rfl) hsuf
  rwa [List.reverse_cons, List.append_assoc] at hfits

/-! ## Lazy runs -/

/-- The text up to the first place where a pattern matches, or to its end. -/
def upTo (a : Pattern) (before : List Char) : List Char → List Char
  | [] => []
  | c :: cs => if a.fits ⟨before, c :: cs⟩ then [] else c :: upTo a (c :: before) cs

/-- A lazy run goes over the places where the condition does not hold. -/
theorem upTo_append {a : Pattern} {b us cs : List Char} (h : Misses a b us cs) :
    upTo a b (us ++ cs) = us ++ upTo a (us.reverse ++ b) cs := by
  induction us generalizing b with
  | nil => rfl
  | cons u us ih =>
    rw [List.cons_append, upTo, h.head, if_neg Bool.false_ne_true, ih h.tail]
    simp

theorem head?_flatMap_runs {α : Type} {a : Pattern} (hend : ∀ b, a.fits ⟨b, []⟩ = true)
    (b cs : List Char) (f : List Char → α) :
    ((runs (fun _ => true) cs).flatMap fun us =>
      if a.fits (Place.advance ⟨b, cs⟩ us) then [f us] else []).head? = some (f (upTo a b cs)) := by
  induction cs generalizing b f with
  | nil => simp [upTo, hend]
  | cons c cs ih =>
    rw [runs, if_pos rfl, List.flatMap_cons, Place.advance_nil, upTo]
    split
    · rfl
    · rw [List.nil_append, List.flatMap_map]
      simp only [Place.advance_cons]
      exact ih (c :: b) fun us => f (c :: us)

/-- A lazy run of any characters before a condition ends where the condition first holds. -/
theorem head?_ways_fewest {a : Pattern} (hend : ∀ b, a.fits ⟨b, []⟩ = true) (b cs : List Char) :
    ((seq (group (fewest fun _ => true)) (ahead a)).ways ⟨b, cs⟩).head? =
      some ⟨upTo a b cs, [upTo a b cs]⟩ := by
  have hrun := head?_flatMap_runs hend b cs fun us => (⟨us, [us]⟩ : Way)
  rw [← hrun]
  congr 1
  simp only [ways, List.map_map, List.flatMap_map]
  congr 1
  funext us
  cases h : (a.ways (Place.advance ⟨b, cs⟩ us)).isEmpty <;>
    simp [fits, h, Way.append, Way.stay]

/-! ## Going through a text -/

/-- The search goes over the places where the pattern does not match. -/
theorem findAll_append {a : Pattern} {b us cs : List Char} (h : Misses a b us cs) :
    findAll a b (us ++ cs) = findAll a (us.reverse ++ b) cs := by
  induction us generalizing b with
  | nil => rfl
  | cons u us ih =>
    rw [List.cons_append, findAll, fits_eq_false.1 h.head, List.head?_nil]
    simp [ih h.tail]

/-- A match is found, and the search goes on behind it. -/
theorem findAll_of_head? {a : Pattern} {b us cs : List Char} {w : Way} (hus : us ≠ [])
    (h : (a.ways ⟨b, us ++ cs⟩).head? = some w) (hw : w.taken = us) :
    findAll a b (us ++ cs) = w :: findAll a (us.reverse ++ b) cs := by
  obtain ⟨u, us, rfl⟩ := List.exists_cons_of_ne_nil hus
  rw [List.cons_append] at h ⊢
  rw [findAll, h]
  simp [hw]

end Pattern

end QueryBook.Text
