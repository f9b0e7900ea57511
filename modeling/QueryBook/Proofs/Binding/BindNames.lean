import QueryBook.Proofs.Binding.Clause
import QueryBook.Proofs.Text.Pattern

/-!
# Bind names and placeholders

Placeholders and the bind names of text clauses are both found by a pattern that begins with a colon
and is tried only behind certain characters. The patterns differ in what may stand ahead of the
colon, in what a name begins with, and in what may follow it. A search goes on behind what it took;
since a name holds no colon, it passes over no place where another match could begin
(`Finds.names_eq`), so that the names found are those of all places, and the distinct ones are listed
by their first place (`firstFound_eraseDups`). Place by place the two agree but for a backslash ahead
of the colon, a colon behind the name and the first character of the name (`bindAt?_eq_some_iff`).
-/

namespace QueryBook

open Text

/-! ## Searching behind certain characters -/

namespace Text.Pattern

/-- The match at a place, if the character ahead of it allows one. -/
def matchBehind (opens : Option Char → Bool) (a : Pattern) (x : Place) : Option Way :=
  if opens x.before.head? then (a.ways x).head? else none

/-- The matches from a place on, each search going on behind what was taken, or behind one character
if nothing was. -/
def findBehind (opens : Option Char → Bool) (a : Pattern) (before : List Char) :
    List Char → List Way
  | [] => (matchBehind opens a ⟨before, []⟩).toList
  | c :: cs =>
    match matchBehind opens a ⟨before, c :: cs⟩ with
    | none => findBehind opens a (c :: before) cs
    | some w =>
      let n := w.taken.length - 1
      w :: findBehind opens a ((c :: cs.take n).reverse ++ before) (cs.drop n)
  termination_by cs => cs.length
  decreasing_by
    · simp
    · simp only [List.length_drop, List.length_cons]
      omega

/-- The names that a search in a text remembers. -/
def namesBehind (opens : Option Char → Bool) (a : Pattern) (sql : String) : List String :=
  ((findBehind opens a [] sql.toList).flatMap (·.groups)).map String.ofList

/-- A pattern that matches a colon and the name that `found` gives for the place. -/
structure Finds (opens : Option Char → Bool) (a : Pattern)
    (found : Option Char → Char → List Char → Option (List Char)) : Prop where
  nil : ∀ before, matchBehind opens a ⟨before, []⟩ = none
  cons : ∀ before c cs, matchBehind opens a ⟨before, c :: cs⟩ =
    (found before.head? c cs).map fun name => ⟨c :: name, [name]⟩
  colon : ∀ before c cs name, found before c cs = some name → c = ':'
  run : ∀ before c cs name, found before c cs = some name → cs.takeWhile isWordChar = name

namespace Finds

variable {opens : Option Char → Bool} {a : Pattern}
  {found : Option Char → Char → List Char → Option (List Char)}
  {search : Option Char → List Char → List (List Char)}

/-- At word characters nothing is found. -/
theorem search_word (h : Finds opens a found) (hcons : ∀ before c cs, search before (c :: cs) =
    (found before c cs).toList ++ search (some c) cs) {us : List Char}
    (hus : ∀ c ∈ us, isWordChar c = true) (before : Option Char) (vs : List Char) :
    search before (us ++ vs) = search (us.getLast?.or before) vs := by
  induction us generalizing before with
  | nil => rfl
  | cons u us ih =>
    have hnone : found before u (us ++ vs) = none := by
      cases hfound : found before u (us ++ vs) with
      | none => rfl
      | some name =>
        have hcolon := h.colon _ _ _ _ hfound
        exact absurd hcolon (Placeholder.ne_of_isWordChar (hus u List.mem_cons_self) (by decide))
    rw [List.cons_append, hcons, hnone, Option.toList_none, List.nil_append,
      ih fun c hc => hus c (List.mem_cons_of_mem u hc), Placeholder.getLast?_cons_or]

/-- A search that goes on behind what it took finds what there is at all places. -/
theorem groups_eq (h : Finds opens a found) (hnil : ∀ before, search before [] = [])
    (hcons : ∀ before c cs, search before (c :: cs) =
      (found before c cs).toList ++ search (some c) cs) (before cs : List Char) :
    (findBehind opens a before cs).flatMap (·.groups) = search before.head? cs := by
  fun_induction findBehind opens a before cs with
  | case1 before => rw [h.nil, hnil]; rfl
  | case2 before c cs hmatch ih =>
    rw [h.cons, Option.map_eq_none_iff] at hmatch
    rw [ih, hcons, hmatch]
    rfl
  | case3 before c cs w hmatch n ih =>
    rw [h.cons, Option.map_eq_some_iff] at hmatch
    obtain ⟨name, hfound, rfl⟩ := hmatch
    obtain rfl := h.run _ _ _ _ hfound
    have hn : n = (cs.takeWhile isWordChar).length := rfl
    have htake : cs.take n = cs.takeWhile isWordChar := by
      rw [hn, ← List.prefix_iff_eq_take.1 (List.takeWhile_prefix _)]
    have hdrop : cs.takeWhile isWordChar ++ cs.drop n = cs := by
      rw [← htake, List.take_append_drop]
    have hword : ∀ d ∈ cs.takeWhile isWordChar, isWordChar d = true :=
      fun _ hd => List.mem_takeWhile_imp hd
    have hrest := h.search_word hcons hword (some c) (cs.drop n)
    rw [hdrop] at hrest
    rw [List.flatMap_cons, ih, hcons, hfound, hrest, htake]
    simp [List.head?_append]

end Finds

/-- The longest run is tried first. -/
theorem head?_reverse_runs (p : Char → Bool) (cs : List Char) :
    (runs p cs).reverse.head? = some (cs.takeWhile p) := by
  rw [List.head?_reverse]
  induction cs with
  | nil => rfl
  | cons c cs ih =>
    cases hc : p c with
    | false => simp [runs, hc]
    | true => simp [runs, hc, List.getLast?_cons, ih]

end Text.Pattern

open Text.Pattern

/-! ## The two patterns -/

/-- A colon and a name. -/
def Placeholder.pattern : Pattern :=
  seq (text [':']) (group (seq (one startsName) (most isWordChar)))

/-- A place before neither a colon nor a word character. -/
def TextClause.wordEnd : Pattern :=
  either textEnd (ahead (one fun c => c != ':' && !isWordChar c))

/-- A colon and word characters with neither a colon nor a word character behind them. -/
def TextClause.pattern : Pattern :=
  seq (Pattern.text [':']) (seq (group (plus isWordChar)) wordEnd)

/-- A pattern that begins with a colon matches at a colon only. -/
theorem matchBehind_colon (opens : Option Char → Bool) (k : Pattern) (before cs : List Char) :
    (matchBehind opens (seq (text [':']) k) ⟨before, []⟩ = none) ∧
      ∀ c, matchBehind opens (seq (text [':']) k) ⟨before, c :: cs⟩ =
        if c = ':' ∧ opens before.head? = true then
          ((k.ways ⟨':' :: before, cs⟩).head?).map (Way.append ⟨[':'], []⟩)
        else none := by
  have hnone : ∀ x : Place, ¬ [':'] <+: x.rest → matchBehind opens (seq (text [':']) k) x = none := by
    intro x hx
    rw [matchBehind, ways_seq_text_eq_nil hx]
    simp
  refine ⟨hnone _ (by simp), fun c => ?_⟩
  by_cases hc : c = ':'
  · subst hc
    have hways := ways_seq_text [':'] before cs k
    rw [List.singleton_append] at hways
    rw [matchBehind, hways]
    simp
  · rw [hnone _ (by simpa using Ne.symm hc), if_neg fun h => hc h.1]

theorem Placeholder.finds_pattern : Finds opensAfter pattern at? where
  nil before := (matchBehind_colon _ _ before []).1
  cons before c cs := by
    rw [pattern, (matchBehind_colon _ _ before cs).2]
    cases cs with
    | nil => simp [ways, at?]
    | cons d ds =>
      cases hd : startsName d with
      | false => simp [ways, at?, hd]
      | true =>
        have hword := isWordChar_of_startsName hd
        have hplace : (Place.mk (':' :: before) (d :: ds)).advance [d] = ⟨d :: ':' :: before, ds⟩ :=
          Place.advance_append (':' :: before) [d] ds
        simp only [ways, hd, if_true, List.flatMap_singleton, hplace, List.map_map, List.head?_map,
          head?_reverse_runs]
        by_cases hat : c = ':' ∧ opensAfter before.head? = true
        · simp [at?, hat, hd, hword, Way.append]
        · rw [if_neg hat, at?, if_neg fun h => hat (by simpa [hd] using h)]
          rfl
  colon before c cs name h := (at?_eq_some.1 h).1
  run before c cs name h := (at?_eq_some.1 h).2.2.2

namespace TextClause

theorem ways_wordEnd_word {c : Char} (hc : isWordChar c = true) (before cs : List Char) :
    wordEnd.ways ⟨before, c :: cs⟩ = [] := by
  simp [wordEnd, ways, hc]

theorem head?_ways_wordEnd {before cs : List Char} (h : ∀ c ∈ cs.head?, isWordChar c = false) :
    (wordEnd.ways ⟨before, cs⟩).head? =
      if closesBefore cs.head? = true then some Way.stay else none := by
  cases cs with
  | nil => rfl
  | cons c cs =>
    have hc : isWordChar c = false := h c rfl
    by_cases hcolon : c = ':' <;> simp [wordEnd, ways, closesBefore, hc, hcolon]

theorem finds_pattern : Finds opensAfter pattern bindAt? where
  nil before := (matchBehind_colon _ _ before []).1
  cons before c cs := by
    have hdrop : ∀ d ∈ (cs.dropWhile isWordChar).head?, isWordChar d = false := by
      intro d hd
      have hnot := List.head?_dropWhile_not isWordChar cs
      rwa [Option.mem_def.1 hd] at hnot
    rw [pattern, (matchBehind_colon _ _ before cs).2,
      ways_seq_run (isRun_group_plus _) (fun b c cs hc => ways_wordEnd_word hc b cs)]
    by_cases hrun : cs.takeWhile isWordChar = []
    · simp [bindAt?, hrun]
    · by_cases hcolon : c = ':' ∧ opensAfter before.head? = true
      · rw [if_pos hcolon, if_neg hrun, List.head?_map, head?_ways_wordEnd hdrop]
        cases hcloses : closesBefore (cs.dropWhile isWordChar).head? <;>
          simp [bindAt?, hcolon, hrun, hcloses, Way.append, Way.stay]
      · rw [if_neg hcolon, bindAt?, if_neg fun h => hcolon (by simp at h; exact h.1.1)]
        rfl
  colon before c cs name h := (bindAt?_eq_some.1 h).1
  run before c cs name h := (bindAt?_eq_some.1 h).2.2.1

end TextClause

/-! ## The lists of names -/

/-- The names that were found, each once and in the order in which they were first found. -/
structure FirstFound (names found : List String) : Prop where
  nodup : names.Nodup
  mem : ∀ name, name ∈ names ↔ name ∈ found
  ordered : names.Pairwise fun m n => found.idxOf m < found.idxOf n

section

variable {α : Type} [BEq α] [LawfulBEq α]

/-- What remains of a list keeps its order. -/
theorem idxOf_lt_of_filter {p : α → Bool} {x y : α} (hx : p x = true) (hy : p y = true)
    {zs : List α} (h : (zs.filter p).idxOf x < (zs.filter p).idxOf y) :
    zs.idxOf x < zs.idxOf y := by
  induction zs with
  | nil => exact h
  | cons z zs ih =>
    cases hz : p z with
    | false =>
      have hne : ∀ w, p w = true → (z == w) = false := by
        intro w hw
        rw [beq_eq_false_iff_ne]
        rintro rfl
        rw [hz] at hw
        cases hw
      rw [List.filter_cons_of_neg (by simp [hz])] at h
      simpa [List.idxOf_cons, hne x hx, hne y hy] using ih h
    | true =>
      rw [List.filter_cons_of_pos hz] at h
      simp only [List.idxOf_cons] at h ⊢
      cases hzx : z == x <;> cases hzy : z == y <;> simp_all

/-- Dropping repeats leaves the first of each in place. -/
theorem pairwise_eraseDups : ∀ zs : List α,
    zs.eraseDups.Pairwise fun x y => zs.idxOf x < zs.idxOf y
  | [] => .nil
  | z :: zs => by
    have hne : ∀ y ∈ (zs.filter (fun w => !(w == z))).eraseDups, (z == y) = false := by
      intro y hy
      have hyz := (List.mem_filter.1 (List.mem_eraseDups.1 hy)).2
      rw [beq_eq_false_iff_ne]
      rintro rfl
      simp at hyz
    rw [List.eraseDups_cons]
    refine List.pairwise_cons.2 ⟨fun y hy => ?_, ?_⟩
    · simp [List.idxOf_cons, hne y hy]
    · refine (pairwise_eraseDups _).imp_of_mem fun {x y} hx hy hlt => ?_
      have hlt := idxOf_lt_of_filter (by simpa using (List.mem_filter.1 (List.mem_eraseDups.1 hx)).2)
        (by simpa using (List.mem_filter.1 (List.mem_eraseDups.1 hy)).2) hlt
      simpa [List.idxOf_cons, hne x hx, hne y hy] using hlt
  termination_by zs => zs.length
  decreasing_by exact Nat.lt_succ_of_le (List.length_filter_le _ _)

end

theorem firstFound_eraseDups (found : List String) : FirstFound found.eraseDups found :=
  ⟨Placeholder.nodup_eraseDups found, fun _ => List.mem_eraseDups, pairwise_eraseDups found⟩

/-! ## Place by place -/

theorem dropWhile_of_takeWhile {α : Type} {p : α → Bool} {us vs : List α}
    (h : (us ++ vs).takeWhile p = us) : (us ++ vs).dropWhile p = vs := by
  have hsplit := List.takeWhile_append_dropWhile (p := p) (l := us ++ vs)
  rw [h] at hsplit
  exact List.append_cancel_left hsplit

namespace TextClause

/-- A bind name may begin where a placeholder may, but not behind a backslash. -/
theorem opensAfter_iff {before : Option Char} :
    opensAfter before = true ↔ Placeholder.opensAfter before = true ∧ before ≠ some '\\' := by
  cases before with
  | none => simp [opensAfter, Placeholder.opensAfter]
  | some c =>
    simp only [opensAfter, Placeholder.opensAfter, Bool.and_eq_true, bne_iff_ne, ne_eq,
      Option.some.injEq]
    tauto

theorem closesBefore_iff {after : Option Char} : closesBefore after = true ↔ after ≠ some ':' := by
  simp [closesBefore]

/-- At a place where a name begins as placeholders do, it is a bind name exactly if it is a
placeholder without a backslash ahead and without a colon behind. -/
theorem bindAt?_eq_some_iff {before : Option Char} {c : Char} {name rest : List Char}
    (hname : name.head?.any startsName = true) :
    bindAt? before c (name ++ rest) = some name ↔
      Placeholder.at? before c (name ++ rest) = some name ∧ before ≠ some '\\' ∧
        rest.head? ≠ some ':' := by
  have hne : name ≠ [] := by
    rintro rfl
    cases hname
  have hstarts : (name ++ rest).head?.any startsName = true := by
    rwa [List.head?_append_of_ne_nil _ hne]
  rw [bindAt?_eq_some, Placeholder.at?_eq_some, opensAfter_iff, closesBefore_iff]
  constructor
  · rintro ⟨hc, ⟨hopens, hslash⟩, hrun, -, hcloses⟩
    rw [dropWhile_of_takeWhile hrun] at hcloses
    exact ⟨⟨hc, hopens, hstarts, hrun⟩, hslash, hcloses⟩
  · rintro ⟨⟨hc, hopens, -, hrun⟩, hslash, hcloses⟩
    refine ⟨hc, ⟨hopens, hslash⟩, hrun, hne, ?_⟩
    rwa [dropWhile_of_takeWhile hrun]

/-- The text behind a colon that opens a name is the name and the rest. -/
theorem exists_rest_of_bindAt? {before : Option Char} {c : Char} {cs name : List Char}
    (h : bindAt? before c cs = some name) : ∃ rest, cs = name ++ rest := by
  obtain ⟨-, -, rfl, -⟩ := bindAt?_eq_some.1 h
  exact ⟨_, List.takeWhile_append_dropWhile.symm⟩

theorem exists_rest_of_at? {before : Option Char} {c : Char} {cs name : List Char}
    (h : Placeholder.at? before c cs = some name) : ∃ rest, cs = name ++ rest := by
  obtain ⟨-, -, -, rfl⟩ := Placeholder.at?_eq_some.1 h
  exact ⟨_, List.takeWhile_append_dropWhile.symm⟩

/-- What is found at all places of a text is the same if it is the same at each of them. -/
theorem bindOccurrences_eq (before : Option Char) (cs : List Char)
    (h : ∀ us c vs, cs = us ++ c :: vs →
      bindAt? (us.getLast?.or before) c vs = Placeholder.at? (us.getLast?.or before) c vs) :
    bindOccurrences before cs = Placeholder.occurrences before cs := by
  induction cs generalizing before with
  | nil => rfl
  | cons c cs ih =>
    have hhere : bindAt? before c cs = Placeholder.at? before c cs := h [] c cs rfl
    rw [bindOccurrences, Placeholder.occurrences, hhere, ih]
    intro us d vs hsplit
    rw [← Placeholder.getLast?_cons_or]
    exact h (c :: us) d vs (by rw [hsplit]; rfl)

variable {sql : String}

/-- A name that begins as placeholders do is a bind name exactly if some place has it as a
placeholder without a backslash ahead and without a colon behind. -/
theorem mem_bindNames_iff_placeholder {name : String}
    (hname : name.toList.head?.any startsName = true) :
    name ∈ bindNames sql ↔ ∃ us rest, sql.toList = us ++ ':' :: (name.toList ++ rest) ∧
      Placeholder.at? us.getLast? ':' (name.toList ++ rest) = some name.toList ∧
        us.getLast? ≠ some '\\' ∧ rest.head? ≠ some ':' := by
  rw [mem_bindNames]
  constructor
  · rintro ⟨us, c, vs, hsql, hat⟩
    obtain ⟨rfl, -⟩ := bindAt?_eq_some.1 hat
    obtain ⟨rest, rfl⟩ := exists_rest_of_bindAt? hat
    exact ⟨us, rest, hsql, (bindAt?_eq_some_iff hname).1 hat⟩
  · rintro ⟨us, rest, hsql, hat⟩
    exact ⟨us, ':', _, hsql, (bindAt?_eq_some_iff hname).2 hat⟩

/-- Without escaped placeholders, placeholders before a colon and bind names that begin otherwise,
the same is found at every place. -/
theorem bindNames_eq_findPlaceholders
    (hplain : ∀ us name rest, sql.toList = us ++ ':' :: (name ++ rest) →
      Placeholder.at? us.getLast? ':' (name ++ rest) = some name →
        us.getLast? ≠ some '\\' ∧ rest.head? ≠ some ':')
    (hstarts : ∀ name ∈ bindNames sql, name.toList.head?.any startsName = true) :
    bindNames sql = findPlaceholders sql := by
  rw [bindNames, findPlaceholders, Placeholder.names, bindOccurrences_eq]
  intro us c vs hsql
  rw [Option.or_none]
  refine Option.ext fun name => ⟨fun hat => ?_, fun hat => ?_⟩
  · have hmem : String.ofList name ∈ bindNames sql :=
      mem_bindNames.2 ⟨us, c, vs, hsql, by rwa [String.toList_ofList]⟩
    have hname := hstarts _ hmem
    rw [String.toList_ofList] at hname
    obtain ⟨rest, rfl⟩ := exists_rest_of_bindAt? hat
    exact ((bindAt?_eq_some_iff hname).1 hat).1
  · obtain ⟨rest, rfl⟩ := exists_rest_of_at? hat
    obtain rfl : c = ':' := (Placeholder.at?_eq_some.1 hat).1
    exact (bindAt?_eq_some_iff (Placeholder.isName_of_at? hat).starts).2
      ⟨hat, hplain us name rest hsql hat⟩

end TextClause

/-- The names that a search remembers are those of all places, if the pattern finds them. -/
theorem namesBehind_eq {opens : Option Char → Bool} {a : Pattern}
    {found : Option Char → Char → List Char → Option (List Char)} (h : Finds opens a found)
    {search : Option Char → List Char → List (List Char)} (hnil : ∀ before, search before [] = [])
    (hcons : ∀ before c cs, search before (c :: cs) =
      (found before c cs).toList ++ search (some c) cs) (sql : String) :
    namesBehind opens a sql = (search none sql.toList).map String.ofList := by
  rw [namesBehind, h.groups_eq hnil hcons]
  rfl

/-- **Bind names are placeholders in certain places.** The bind names of a text clause and the
placeholders of its text are what searches for the two patterns find, each name once and in the order
in which it was first found; the searches, which go on behind what they took, miss no place. A name
that begins as placeholders do is a bind name exactly if it is a placeholder at some place where no
backslash stands ahead and no colon behind. So if all placeholders stand in such places and all bind
names begin as placeholders do, the two lists are the same. -/
theorem clause_names_placeholders (sql : String) :
    ∃ clause : TextClause Value, bindClause sql [] = .ok clause ∧
      FirstFound (clause.binds.map Prod.fst)
        (namesBehind TextClause.opensAfter TextClause.pattern sql) ∧
      FirstFound (findPlaceholders sql)
        (namesBehind Placeholder.opensAfter Placeholder.pattern sql) ∧
      namesBehind TextClause.opensAfter TextClause.pattern sql =
        (TextClause.bindOccurrences none sql.toList).map String.ofList ∧
      namesBehind Placeholder.opensAfter Placeholder.pattern sql =
        (Placeholder.occurrences none sql.toList).map String.ofList ∧
      (∀ name : String, name.toList.head?.any startsName = true →
        (name ∈ clause.binds.map Prod.fst ↔
          ∃ us rest, sql.toList = us ++ ':' :: (name.toList ++ rest) ∧
            Placeholder.at? us.getLast? ':' (name.toList ++ rest) = some name.toList ∧
              us.getLast? ≠ some '\\' ∧ rest.head? ≠ some ':')) ∧
      ((∀ us name rest, sql.toList = us ++ ':' :: (name ++ rest) →
          Placeholder.at? us.getLast? ':' (name ++ rest) = some name →
            us.getLast? ≠ some '\\' ∧ rest.head? ≠ some ':') →
        (∀ name ∈ clause.binds.map Prod.fst, name.toList.head?.any startsName = true) →
          clause.binds.map Prod.fst = findPlaceholders sql) := by
  have hbinds : namesBehind TextClause.opensAfter TextClause.pattern sql =
      (TextClause.bindOccurrences none sql.toList).map String.ofList :=
    namesBehind_eq TextClause.finds_pattern (fun _ => rfl) (fun _ _ _ => rfl) sql
  have hplaceholders : namesBehind Placeholder.opensAfter Placeholder.pattern sql =
      (Placeholder.occurrences none sql.toList).map String.ofList :=
    namesBehind_eq Placeholder.finds_pattern (fun _ => rfl) (fun _ _ _ => rfl) sql
  refine ⟨_, rfl, ?_⟩
  rw [List.map_map, show (Prod.fst ∘ fun n : String => (n, List.lookup n ([] : Params))) = id from rfl,
    List.map_id]
  refine ⟨?_, ?_, hbinds, hplaceholders, fun name => TextClause.mem_bindNames_iff_placeholder,
    TextClause.bindNames_eq_findPlaceholders⟩
  · rw [hbinds]
    exact firstFound_eraseDups _
  · rw [hplaceholders]
    exact firstFound_eraseDups _

/-- A text with one colon, which neither follows a backslash nor is followed by another colon. -/
theorem clause_names_one_colon :
    (∀ us name rest, "x = :id_2;".toList = us ++ ':' :: (name ++ rest) →
      Placeholder.at? us.getLast? ':' (name ++ rest) = some name →
        us.getLast? ≠ some '\\' ∧ rest.head? ≠ some ':') ∧
    ∃ clause : TextClause Value, bindClause "x = :id_2;" [] = .ok clause ∧
      clause.binds.map Prod.fst = ["id_2"] := by
  have hplain : ∀ us name rest, "x = :id_2;".toList = us ++ ':' :: (name ++ rest) →
      Placeholder.at? us.getLast? ':' (name ++ rest) = some name →
        us.getLast? ≠ some '\\' ∧ rest.head? ≠ some ':' := by
    intro us name rest hsql _
    refine ⟨fun hslash => ?_, fun hcolon => ?_⟩
    · have hmem : '\\' ∈ "x = :id_2;".toList := hsql ▸ List.mem_append_left _
        (List.mem_of_getLast? hslash)
      exact absurd hmem (by decide)
    · obtain ⟨rest, rfl⟩ : ∃ tail, rest = ':' :: tail := by
        cases rest with
        | nil => cases hcolon
        | cons c tail => cases hcolon; exact ⟨tail, rfl⟩
      have hcount := congrArg (List.count ':') hsql
      simp only [List.count_append, List.count_cons_self] at hcount
      rw [show List.count ':' "x = :id_2;".toList = 1 by decide] at hcount
      omega
  have hplaceholders : findPlaceholders "x = :id_2;" = ["id_2"] := by decide
  obtain ⟨clause, hclause, -, -, -, -, -, hsame⟩ := clause_names_placeholders "x = :id_2;"
  have hnames : clause.binds.map Prod.fst = ["id_2"] := by
    cases hclause
    decide
  refine ⟨hplain, clause, hclause, ?_⟩
  rw [hsame hplain (by rw [hnames]; decide), hplaceholders]

end QueryBook
