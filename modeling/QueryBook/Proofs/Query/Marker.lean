import Mathlib.Data.List.TakeWhile
import QueryBook.Proofs.Text.Pattern
import QueryBook.Query.File

/-!
# Marker lines

What a marker line is, in three forms: as a text made of parts (`IsMarker`), as what `marker?`
reads, and as a pattern with backtracking (`marker`). `opened?_eq_some` and `isTerminator_iff` give
the first two; for the pattern there is no choice to go back to, since no part can go on where the
next one begins (`ways_marker_of_some`). `namedQuery` is the pattern of a whole query, a marker line
and the text up to the next one, and `head?_ways_namedQuery` says what it finds at the start of a
line.
-/

namespace QueryBook.QueryFile

open Text Pattern

/-- A line of the form `--`, gaps, `name:`, gaps, a name without blanks, gaps, and an ending. -/
def IsMarker (line name ending : List Char) : Prop :=
  ∃ g₁ g₂ g₃ : List Char,
    line = "--".toList ++ g₁ ++ "name:".toList ++ g₂ ++ name ++ g₃ ++ ending ∧
      (∀ c ∈ g₁ ++ g₂ ++ g₃, isGap c = true) ∧ name ≠ [] ∧ ∀ c ∈ name, isBlank c = false

/-- A marker line that begins a query: it has nothing behind the gaps, or a carriage return before
a line feed. -/
def Opens (line name : List Char) (isLast : Bool) : Prop :=
  IsMarker line name [] ∨ IsMarker line name ['\r'] ∧ isLast = false

/-- A marker line that ends the query before it: also without a line feed it may have a carriage
return behind the gaps. -/
def Terminates (line : List Char) : Prop :=
  ∃ name, IsMarker line name [] ∨ IsMarker line name ['\r']

/-- The characters of names. -/
def isSolid (c : Char) : Bool :=
  !isBlank c

theorem isBlank_of_isGap {c : Char} (h : isGap c = true) : isBlank c = true := by
  simp only [isGap, Bool.or_eq_true, beq_iff_eq] at h
  rcases h with rfl | rfl <;> decide

/-! ## Reading a marker line -/

theorem after?_eq_some {word cs rest : List Char} :
    after? word cs = some rest ↔ cs = word ++ rest := by
  rw [after?]
  split
  · next h =>
    obtain ⟨ds, rfl⟩ := List.isPrefixOf_iff_prefix.1 h
    simp
  · next h =>
    refine ⟨nofun, ?_⟩
    rintro rfl
    exact absurd (List.isPrefixOf_iff_prefix.2 (List.prefix_append word rest)) h

theorem after?_eq_none {word cs : List Char} : after? word cs = none ↔ ¬ word <+: cs := by
  constructor
  · rintro h ⟨rest, rfl⟩
    rw [after?_eq_some.2 rfl] at h
    cases h
  · intro h
    cases hrest : after? word cs with
    | none => rfl
    | some rest => exact absurd ⟨rest, (after?_eq_some.1 hrest).symm⟩ h

theorem marker?_eq_some {line name ending : List Char} :
    marker? line = some (name, ending) ↔
      ∃ us vs, line = "--".toList ++ us ∧ us.dropWhile isGap = "name:".toList ++ vs ∧ name ≠ [] ∧
        (vs.dropWhile isGap).takeWhile isSolid = name ∧
        ((vs.dropWhile isGap).dropWhile isSolid).dropWhile isGap = ending := by
  constructor
  · intro h
    simp only [marker?, Option.bind_eq_bind, Option.bind_eq_some_iff] at h
    obtain ⟨us, hus, vs, hvs, h⟩ := h
    split at h
    · cases h
    · next hname =>
      cases h
      exact ⟨us, vs, after?_eq_some.1 hus, after?_eq_some.1 hvs, by simpa using hname, rfl, rfl⟩
  · rintro ⟨us, vs, hus, hvs, hname, rfl, rfl⟩
    have hne : ((vs.dropWhile isGap).takeWhile isSolid).isEmpty = false := by simpa using hname
    rw [marker?, show ['-', '-'] = "--".toList from rfl, after?_eq_some.2 hus]
    simp only [Option.bind_eq_bind, Option.bind_some]
    rw [after?_eq_some.2 hvs]
    simp only [Option.bind_some]
    exact if_neg (Bool.eq_false_iff.1 hne)

/-- What `marker?` reads is a marker line. -/
theorem isMarker_of_marker? {line name ending : List Char}
    (h : marker? line = some (name, ending)) : IsMarker line name ending := by
  obtain ⟨us, vs, rfl, hus, hname, rfl, rfl⟩ := marker?_eq_some.1 h
  refine ⟨us.takeWhile isGap, vs.takeWhile isGap,
    ((vs.dropWhile isGap).dropWhile isSolid).takeWhile isGap, ?_, ?_, hname, ?_⟩
  · simp only [List.append_assoc]
    rw [List.takeWhile_append_dropWhile, List.takeWhile_append_dropWhile,
      List.takeWhile_append_dropWhile, ← hus, List.takeWhile_append_dropWhile]
  · intro c hc
    simp only [List.mem_append] at hc
    rcases hc with (hc | hc) | hc <;> exact List.mem_takeWhile_imp hc
  · intro c hc
    simpa [isSolid] using List.mem_takeWhile_imp hc

/-- A run that cannot go on is what `takeWhile` and `dropWhile` separate. -/
theorem takeWhile_dropWhile_run {α : Type} {p : α → Bool} {us vs : List α}
    (hus : ∀ c ∈ us, p c = true) (hvs : ∀ c ∈ vs.head?, p c = false) :
    (us ++ vs).takeWhile p = us ∧ (us ++ vs).dropWhile p = vs := by
  rw [List.takeWhile_append_of_pos hus, List.dropWhile_append_of_pos hus]
  cases vs with
  | nil => simp
  | cons v vs => simp [hvs v rfl]

/-- A marker line is read as such, if its ending is not part of the name or of the gaps. -/
theorem IsMarker.marker?_eq {line name ending : List Char} (h : IsMarker line name ending)
    (hending : ∀ c ∈ ending.head?, isGap c = false ∧ isBlank c = true) :
    marker? line = some (name, ending) := by
  obtain ⟨g₁, g₂, g₃, hline, hgaps, hname, hsolid⟩ := h
  simp only [List.mem_append] at hgaps
  have hbehind : ∀ c ∈ (g₃ ++ ending).head?, isSolid c = false := by
    intro c hc
    cases g₃ with
    | nil => simp [isSolid, (hending c hc).2]
    | cons g g₃ =>
      cases hc
      simp [isSolid, isBlank_of_isGap (hgaps c (.inr List.mem_cons_self))]
  have hstart : ∀ c ∈ (name ++ (g₃ ++ ending)).head?, isGap c = false := by
    intro c hc
    obtain ⟨n, ns, rfl⟩ := List.exists_cons_of_ne_nil hname
    cases hc
    refine Bool.eq_false_iff.2 fun hgap => ?_
    have hblank := isBlank_of_isGap hgap
    rw [hsolid c List.mem_cons_self] at hblank
    cases hblank
  have hkey : ∀ c ∈ ("name:".toList ++ (g₂ ++ (name ++ (g₃ ++ ending)))).head?,
      isGap c = false := by
    rintro c ⟨⟩
    decide
  have h₁ := takeWhile_dropWhile_run (fun c hc => hgaps c (.inl (.inl hc))) hkey
  have h₂ := takeWhile_dropWhile_run (fun c hc => hgaps c (.inl (.inr hc))) hstart
  have h₃ := takeWhile_dropWhile_run (fun c hc => hgaps c (.inr hc)) fun c hc => (hending c hc).1
  have hletters : ∀ c ∈ name, isSolid c = true := fun c hc => by simp [isSolid, hsolid c hc]
  have hnamed := takeWhile_dropWhile_run hletters hbehind
  refine marker?_eq_some.2 ⟨_, _, by rw [hline]; simp only [List.append_assoc], h₁.2, hname, ?_, ?_⟩
  · rw [h₂.2, hnamed.1]
  · rw [h₂.2, hnamed.2, h₃.2]

/-- A carriage return is neither part of the gaps nor of the name before it. -/
theorem IsMarker.marker?_return {line name : List Char} (h : IsMarker line name ['\r']) :
    marker? line = some (name, ['\r']) := by
  refine h.marker?_eq ?_
  rintro c ⟨⟩
  decide

theorem opened?_eq (line : List Char) (isLast : Bool) :
    opened? line isLast = (marker? line).bind fun m =>
      if m.2 = [] ∨ m.2 = ['\r'] ∧ isLast = false then some m.1 else none := by
  rw [opened?]
  split
  · next h => simp [h]
  · next h => cases isLast <;> simp [h]
  · next hnil hreturn =>
    cases h : marker? line with
    | none => rfl
    | some m =>
      obtain ⟨name, ending⟩ := m
      have h₁ : ending ≠ [] := fun he => hnil name (he ▸ h)
      have h₂ : ending ≠ ['\r'] := fun he => hreturn name (he ▸ h)
      simp [h₁, h₂]

/-- A line ends a query if it would begin one before a line feed. -/
theorem isTerminator_eq (line : List Char) : isTerminator line = (opened? line false).isSome := by
  rw [isTerminator, opened?]
  split <;> rfl

theorem opened?_eq_some {line name : List Char} {isLast : Bool} :
    opened? line isLast = some name ↔ Opens line name isLast := by
  constructor
  · intro h
    rw [opened?_eq, Option.bind_eq_some_iff] at h
    obtain ⟨⟨n, ending⟩, hmarker, h⟩ := h
    split at h
    · next hending =>
      cases h
      rcases hending with rfl | ⟨rfl, hlast⟩
      · exact .inl (isMarker_of_marker? hmarker)
      · exact .inr ⟨isMarker_of_marker? hmarker, hlast⟩
    · cases h
  · rintro (h | ⟨h, rfl⟩)
    · rw [opened?_eq, h.marker?_eq nofun, Option.bind_some, if_pos (.inl rfl)]
    · rw [opened?_eq, h.marker?_return, Option.bind_some, if_pos (.inr ⟨rfl, rfl⟩)]

theorem isTerminator_iff {line : List Char} : isTerminator line = true ↔ Terminates line := by
  rw [isTerminator_eq, Option.isSome_iff_exists]
  refine exists_congr fun name => ?_
  rw [opened?_eq_some, Opens, and_iff_left rfl]

/-- A line that begins a query ends the one before it. -/
theorem isTerminator_of_opened? {line name : List Char} {isLast : Bool}
    (h : opened? line isLast = some name) : isTerminator line = true :=
  isTerminator_iff.2 ⟨name, (opened?_eq_some.1 h).imp_right And.left⟩

/-! ## A line in a text -/

/-- What follows a line in a text: nothing, or a line feed and more. -/
def LineTail (tail : List Char) : Prop :=
  ∀ c ∈ tail.head?, c = '\n'

theorem LineTail.eq_nil_or {tail : List Char} (h : LineTail tail) :
    tail = [] ∨ ∃ cs, tail = '\n' :: cs := by
  cases tail with
  | nil => exact .inl rfl
  | cons c cs => exact .inr ⟨cs, by rw [h c rfl]⟩

/-- Characters behind a text that a run in it cannot go on with do not matter to the run. -/
theorem dropWhile_append_tail {p : Char → Bool} {tail : List Char}
    (h : ∀ c ∈ tail.head?, p c = false) (us : List Char) :
    (us ++ tail).dropWhile p = us.dropWhile p ++ tail := by
  have htail : tail.dropWhile p = tail := by
    cases tail with
    | nil => rfl
    | cons c cs => exact List.dropWhile_cons_of_neg (by simp [h c rfl])
  rw [List.dropWhile_append, htail]
  split
  · next hnil => rw [List.isEmpty_iff.1 hnil, List.nil_append]
  · rfl

theorem takeWhile_append_tail {p : Char → Bool} {tail : List Char}
    (h : ∀ c ∈ tail.head?, p c = false) (us : List Char) :
    (us ++ tail).takeWhile p = us.takeWhile p := by
  have htail : tail.takeWhile p = [] := by
    cases tail with
    | nil => rfl
    | cons c cs => exact List.takeWhile_cons_of_neg (by simp [h c rfl])
  rw [List.takeWhile_append, htail]
  split
  · next hlen => rw [List.append_nil, (List.takeWhile_prefix p).eq_of_length hlen]
  · rfl

theorem after?_append_tail {word tail : List Char} (h : ∀ c ∈ tail.head?, c ∉ word)
    (us : List Char) : after? word (us ++ tail) = (after? word us).map (· ++ tail) := by
  cases hus : after? word us with
  | some rest =>
    rw [after?_eq_some.1 hus, List.append_assoc]
    exact after?_eq_some.2 rfl
  | none =>
    refine after?_eq_none.2 fun ⟨rest, hrest⟩ => after?_eq_none.1 hus ?_
    rcases List.append_eq_append_iff.1 hrest with ⟨zs, rfl, -⟩ | ⟨zs, rfl, rfl⟩
    · exact List.prefix_append word zs
    · cases zs with
      | nil => simp
      | cons z zs => exact absurd (List.mem_append_right us List.mem_cons_self) (h z rfl)

/-- A marker line is read as on its own if a line feed or a carriage return follows it. -/
theorem marker?_append_tail {tail : List Char} (h : ∀ c ∈ tail.head?, c = '\n' ∨ c = '\r')
    (line : List Char) :
    marker? (line ++ tail) = (marker? line).map fun m => (m.1, m.2 ++ tail) := by
  have hends {p : Char → Prop} (hfeed : p '\n') (hreturn : p '\r') : ∀ c ∈ tail.head?, p c := by
    intro c hc
    rcases h c hc with rfl | rfl
    · exact hfeed
    · exact hreturn
  have hgap : ∀ c ∈ tail.head?, isGap c = false := hends (by decide) (by decide)
  have hsolid : ∀ c ∈ tail.head?, isSolid c = false := hends (by decide) (by decide)
  simp only [marker?, Option.bind_eq_bind]
  rw [after?_append_tail (hends (by decide) (by decide))]
  cases after? ['-', '-'] line with
  | none => rfl
  | some us =>
    simp only [Option.map_some, Option.bind_some]
    rw [dropWhile_append_tail hgap, after?_append_tail (hends (by decide) (by decide))]
    cases after? "name:".toList (us.dropWhile isGap) with
    | none => rfl
    | some vs =>
      simp only [Option.map_some, Option.bind_some]
      rw [show (fun c => !isBlank c) = isSolid from rfl, dropWhile_append_tail hgap,
        takeWhile_append_tail hsolid, dropWhile_append_tail hsolid, dropWhile_append_tail hgap]
      split <;> rfl

/-! ## Marker lines as patterns -/

/-- The pattern of a marker line, from its start: a name, and what is behind the gaps. -/
def marker (name ending : Pattern) : Pattern :=
  seq lineStart (seq (text "--".toList) (seq (most isGap) (seq (text "name:".toList)
    (seq (most isGap) (seq name (seq (most isGap) ending))))))

/-- The pattern of a line end that is taken: a line feed, with a carriage return before it or not,
or the end of the text. -/
def lineBreak : Pattern :=
  either (seq (opt (one (· == '\r'))) (one (· == '\n'))) textEnd

/-- The pattern of what ends a query: a marker line, up to a carriage return, or the end of the
text. -/
def terminator : Pattern :=
  either (marker (plus isSolid) (seq (opt (one (· == '\r'))) lineEnd)) textEnd

/-- The pattern of a query: a marker line with a name, and the shortest text up to what ends it. -/
def namedQuery : Pattern :=
  marker (group (plus isSolid))
    (seq lineBreak (seq (group (fewest fun _ => true)) (ahead terminator)))

/-- A pattern that cannot go on with a gap or with a character of a name. -/
structure EndsMarker (k : Pattern) : Prop where
  gap : ∀ b c cs, isGap c = true → k.ways ⟨b, c :: cs⟩ = []
  solid : ∀ b c cs, isSolid c = true → k.ways ⟨b, c :: cs⟩ = []

section

variable {name k : Pattern} {tag : List Char → List (List Char)}

theorem isGap_eq_false_of_isSolid {c : Char} (h : isSolid c = true) : isGap c = false :=
  Bool.eq_false_iff.2 fun hgap => by simp [isSolid, isBlank_of_isGap hgap] at h

/-- Behind `name:` the gaps and the name are maximal. -/
theorem ways_gaps_name (hname : IsRun name isSolid tag) (hk : EndsMarker k) (b vs : List Char) :
    ∃ pre, vs = pre ++ ((vs.dropWhile isGap).dropWhile isSolid).dropWhile isGap ∧
      (seq (most isGap) (seq name (seq (most isGap) k))).ways ⟨b, vs⟩ =
        if (vs.dropWhile isGap).takeWhile isSolid = [] then [] else
          (k.ways ⟨pre.reverse ++ b,
            ((vs.dropWhile isGap).dropWhile isSolid).dropWhile isGap⟩).map
              (Way.append ⟨pre, tag ((vs.dropWhile isGap).takeWhile isSolid)⟩) := by
  have hsolid : ∀ b c cs, isSolid c = true → (seq (most isGap) k).ways ⟨b, c :: cs⟩ = [] := by
    intro b c cs hc
    have hgap := isGap_eq_false_of_isSolid hc
    rw [ways_seq_most hk.gap, List.dropWhile_cons_of_neg (by simp [hgap]), hk.solid _ _ _ hc]
    rfl
  have hgap : ∀ b c cs, isGap c = true →
      (seq name (seq (most isGap) k)).ways ⟨b, c :: cs⟩ = [] := by
    intro b c cs hc
    have hblank := isBlank_of_isGap hc
    rw [ways_seq_run hname hsolid, if_pos (List.takeWhile_cons_of_neg (by simp [isSolid, hblank]))]
  refine ⟨vs.takeWhile isGap ++ (vs.dropWhile isGap).takeWhile isSolid ++
    ((vs.dropWhile isGap).dropWhile isSolid).takeWhile isGap, ?_, ?_⟩
  · simp only [List.append_assoc]
    rw [List.takeWhile_append_dropWhile, List.takeWhile_append_dropWhile,
      List.takeWhile_append_dropWhile]
  · rw [ways_seq_most hgap, ways_seq_run hname hsolid, ways_seq_most hk.gap]
    split
    · rfl
    · rw [Way.map_append_map, Way.map_append_map]
      simp [Way.append]

theorem ways_seq_key (b us : List Char) (k : Pattern) :
    (seq (most isGap) (seq (text "name:".toList) k)).ways ⟨b, us⟩ =
      ((seq (text "name:".toList) k).ways ⟨(us.takeWhile isGap).reverse ++ b,
        us.dropWhile isGap⟩).map (Way.append ⟨us.takeWhile isGap, []⟩) := by
  refine ways_seq_most ?_ b us
  intro b c cs hc
  refine ways_seq_text_eq_nil ?_ _
  rintro ⟨rest, hrest⟩
  obtain ⟨rfl, -⟩ := List.cons.inj hrest
  exact absurd hc (by decide)

/-- At the start of a line the pattern of a marker line finds what `marker?` reads. -/
theorem ways_marker_of_some (hname : IsRun name isSolid tag) (hk : EndsMarker k)
    {b cs n r : List Char} (hstart : Place.startsLine ⟨b, cs⟩ = true)
    (h : marker? cs = some (n, r)) :
    ∃ pre, cs = pre ++ r ∧ (marker name k).ways ⟨b, cs⟩ =
      (k.ways ⟨pre.reverse ++ b, r⟩).map (Way.append ⟨pre, tag n⟩) := by
  obtain ⟨us, vs, rfl, hus, hn, rfl, rfl⟩ := marker?_eq_some.1 h
  obtain ⟨pre, hpre, hways⟩ :=
    ways_gaps_name hname hk ("name:".toList.reverse ++ ((us.takeWhile isGap).reverse ++
      ("--".toList.reverse ++ b))) vs
  refine ⟨"--".toList ++ (us.takeWhile isGap ++ ("name:".toList ++ pre)), ?_, ?_⟩
  · simp only [List.append_assoc]
    rw [← hpre, ← hus, List.takeWhile_append_dropWhile]
  · rw [marker, ways_seq_lineStart hstart, ways_seq_text, ways_seq_key, hus, ways_seq_text, hways,
      if_neg hn]
    simp only [Way.map_append_map, List.reverse_append, List.append_assoc]
    rfl

theorem ways_marker_of_none (hname : IsRun name isSolid tag) (hk : EndsMarker k)
    {b cs : List Char} (hstart : Place.startsLine ⟨b, cs⟩ = true) (h : marker? cs = none) :
    (marker name k).ways ⟨b, cs⟩ = [] := by
  rw [marker, ways_seq_lineStart hstart]
  cases hdash : after? "--".toList cs with
  | none => exact ways_seq_text_eq_nil (after?_eq_none.1 hdash) _
  | some us =>
    have hcs := after?_eq_some.1 hdash
    rw [hcs, ways_seq_text, ways_seq_key]
    cases hkey : after? "name:".toList (us.dropWhile isGap) with
    | none => rw [ways_seq_text_eq_nil (after?_eq_none.1 hkey)]; rfl
    | some vs =>
      have hus := after?_eq_some.1 hkey
      by_cases hn : (vs.dropWhile isGap).takeWhile isSolid = []
      · obtain ⟨pre, -, hways⟩ := ways_gaps_name hname hk _ vs
        rw [hus, ways_seq_text, hways, if_pos hn]
        rfl
      · rw [marker?_eq_some.2 ⟨us, vs, hcs, hus, hn, rfl, rfl⟩] at h
        cases h

theorem ways_marker_of_not_startsLine {x : Place} (h : x.startsLine = false) :
    (marker name k).ways x = [] :=
  ways_seq_lineStart_eq_nil h _

end

/-! ## The ends of the patterns -/

theorem endsMarker_of_ne {k : Pattern}
    (h : ∀ b c cs, c ≠ '\r' → c ≠ '\n' → k.ways ⟨b, c :: cs⟩ = []) : EndsMarker k := by
  have hsolid : isSolid '\r' = false ∧ isSolid '\n' = false := by decide
  refine ⟨fun b c cs hc => h b c cs ?_ ?_, fun b c cs hc => h b c cs ?_ ?_⟩
  · rintro rfl; exact absurd hc (by decide)
  · rintro rfl; exact absurd hc (by decide)
  · rintro rfl; rw [hsolid.1] at hc; cases hc
  · rintro rfl; rw [hsolid.2] at hc; cases hc

theorem ways_return {c : Char} (hc : c ≠ '\r') (b cs : List Char) :
    (opt (one (· == '\r'))).ways ⟨b, c :: cs⟩ = [.stay] := by
  simp [opt, ways, hc]

theorem ways_lineBreak_of_ne {c : Char} (hreturn : c ≠ '\r') (hfeed : c ≠ '\n')
    (b cs : List Char) : lineBreak.ways ⟨b, c :: cs⟩ = [] := by
  simp [lineBreak, ways_return hreturn, ways, hfeed, Way.stay]

theorem ways_lineBreak_return_of_ne {c : Char} (hfeed : c ≠ '\n') (b cs : List Char) :
    lineBreak.ways ⟨b, '\r' :: c :: cs⟩ = [] := by
  simp [lineBreak, opt, ways, hfeed, Way.stay, Place.advance]

/-- What is left of a line: nothing, a carriage return, or what no line end begins with. -/
theorem ending_cases {ending : List Char} (h : '\n' ∉ ending) :
    ending = [] ∨ ending = ['\r'] ∨ (∃ c cs, ending = c :: cs ∧ c ≠ '\r' ∧ c ≠ '\n') ∨
      ∃ c cs, ending = '\r' :: c :: cs ∧ c ≠ '\n' := by
  cases ending with
  | nil => exact .inl rfl
  | cons c cs =>
    have hc : c ≠ '\n' := fun hfeed => h (hfeed ▸ List.mem_cons_self)
    by_cases hreturn : c = '\r'
    · subst hreturn
      cases cs with
      | nil => exact .inr (.inl rfl)
      | cons d cs =>
        have hd : d ≠ '\n' := fun hfeed => h (hfeed ▸ List.mem_cons_of_mem _ List.mem_cons_self)
        exact .inr (.inr (.inr ⟨d, cs, rfl, hd⟩))
    · exact .inr (.inr (.inl ⟨c, cs, rfl, hreturn, hc⟩))

/-- A line break takes what is left of the line and the line feed behind it. -/
theorem ways_lineBreak {ending tail : List Char} (hending : '\n' ∉ ending) (htail : LineTail tail)
    (b : List Char) :
    lineBreak.ways ⟨b, ending ++ tail⟩ =
      if ending = [] ∨ ending = ['\r'] ∧ tail.isEmpty = false then [⟨ending ++ tail.take 1, []⟩]
      else [] := by
  rcases ending_cases hending with rfl | rfl | ⟨c, cs, rfl, hreturn, hfeed⟩ | ⟨c, cs, rfl, hfeed⟩
  · rcases htail.eq_nil_or with rfl | ⟨cs, rfl⟩ <;> rfl
  · rcases htail.eq_nil_or with rfl | ⟨cs, rfl⟩ <;> rfl
  · simp [ways_lineBreak_of_ne hreturn hfeed, hreturn]
  · simp [ways_lineBreak_return_of_ne hfeed]

/-- A line end leaves the line feed, and takes what is left of the line only if it is a carriage
return. -/
theorem fits_lineEnd {ending tail : List Char} (hending : '\n' ∉ ending) (htail : LineTail tail)
    (b : List Char) :
    (seq (opt (one (· == '\r'))) lineEnd).fits ⟨b, ending ++ tail⟩ =
      decide (ending = [] ∨ ending = ['\r']) := by
  rcases ending_cases hending with rfl | rfl | ⟨c, cs, rfl, hreturn, hfeed⟩ | ⟨c, cs, rfl, hfeed⟩
  · rcases htail.eq_nil_or with rfl | ⟨cs, rfl⟩ <;> rfl
  · rcases htail.eq_nil_or with rfl | ⟨cs, rfl⟩ <;> rfl
  · simp [fits, ways_return hreturn, ways, hreturn, hfeed, Way.stay, Place.endsLine]
  · simp [fits, opt, ways, hfeed, Way.stay, Place.advance, Place.endsLine]

theorem endsMarker_lineBreak (k : Pattern) : EndsMarker (seq lineBreak k) := by
  refine endsMarker_of_ne fun b c cs hreturn hfeed => ?_
  rw [ways_seq, ways_lineBreak_of_ne hreturn hfeed, List.flatMap_nil]

theorem endsMarker_lineEnd : EndsMarker (seq (opt (one (· == '\r'))) lineEnd) := by
  refine endsMarker_of_ne fun b c cs hreturn hfeed => ?_
  simp [ways_return hreturn, ways, hfeed, Way.stay, Place.endsLine]

/-! ## The end of a query and its beginning -/

theorem ending_subset_of_marker? {line name ending : List Char}
    (h : marker? line = some (name, ending)) : ending ⊆ line := by
  obtain ⟨_, _, _, rfl, -⟩ := isMarker_of_marker? h
  exact List.subset_append_right _ _

theorem fits_terminator_nil (b : List Char) : terminator.fits ⟨b, []⟩ = true := by
  simp [fits, terminator, ways]

theorem fits_terminator_of_not_startsLine {b cs : List Char} (hcs : cs ≠ [])
    (h : Place.startsLine ⟨b, cs⟩ = false) : terminator.fits ⟨b, cs⟩ = false := by
  simp [fits, terminator, ways, ways_marker_of_not_startsLine h, hcs]

/-- At the start of a line a query ends if the line is a marker line. -/
theorem fits_terminator {b line tail : List Char}
    (hstart : Place.startsLine ⟨b, line ++ tail⟩ = true) (hline : '\n' ∉ line)
    (htail : LineTail tail) (hne : line ++ tail ≠ []) :
    terminator.fits ⟨b, line ++ tail⟩ = isTerminator line := by
  have hmarker := marker?_append_tail (fun c hc => .inl (htail c hc)) line
  have hfits : terminator.fits ⟨b, line ++ tail⟩ =
      (marker (plus isSolid) (seq (opt (one (· == '\r'))) lineEnd)).fits ⟨b, line ++ tail⟩ := by
    have hne' : (line ++ tail).isEmpty = false := by simpa using hne
    simp [fits, terminator, ways, hne']
  rw [hfits, isTerminator_eq, opened?_eq]
  cases h : marker? line with
  | none =>
    rw [h] at hmarker
    rw [fits, ways_marker_of_none (isRun_plus _) endsMarker_lineEnd hstart hmarker]
    rfl
  | some m =>
    obtain ⟨name, ending⟩ := m
    rw [h] at hmarker
    obtain ⟨pre, -, hways⟩ :=
      ways_marker_of_some (isRun_plus _) endsMarker_lineEnd hstart hmarker
    have hending := fits_lineEnd (fun hc => hline (ending_subset_of_marker? h hc)) htail
      (pre.reverse ++ b)
    rw [fits, hways, List.isEmpty_map, ← fits, hending, Option.bind_some]
    by_cases hends : ending = [] ∨ ending = ['\r'] <;> simp [hends]

theorem ways_namedQuery_nil (b : List Char) : namedQuery.ways ⟨b, []⟩ = [] := by
  cases hstart : Place.startsLine ⟨b, []⟩ with
  | false => exact ways_marker_of_not_startsLine hstart
  | true => exact ways_marker_of_none (isRun_group_plus _) (endsMarker_lineBreak _) hstart rfl

/-- At the start of a line a query begins if the line opens one, and it goes on up to the next place
where it ends. -/
theorem head?_ways_namedQuery {b line tail : List Char}
    (hstart : Place.startsLine ⟨b, line ++ tail⟩ = true) (hline : '\n' ∉ line)
    (htail : LineTail tail) :
    (namedQuery.ways ⟨b, line ++ tail⟩).head? = (opened? line tail.isEmpty).map fun name =>
      let body := upTo terminator ((line ++ tail.take 1).reverse ++ b) (tail.drop 1)
      ⟨line ++ tail.take 1 ++ body, [name, body]⟩ := by
  have hmarker := marker?_append_tail (fun c hc => .inl (htail c hc)) line
  rw [opened?_eq]
  cases h : marker? line with
  | none =>
    rw [h] at hmarker
    rw [namedQuery, ways_marker_of_none (isRun_group_plus _) (endsMarker_lineBreak _) hstart hmarker]
    rfl
  | some m =>
    obtain ⟨name, ending⟩ := m
    rw [h] at hmarker
    obtain ⟨pre, hpre, hways⟩ :=
      ways_marker_of_some (isRun_group_plus _) (endsMarker_lineBreak _) hstart hmarker
    rw [namedQuery, hways, ways_seq,
      ways_lineBreak (fun hc => hline (ending_subset_of_marker? h hc)) htail, Option.bind_some]
    have hsplit : line = pre ++ ending :=
      List.append_cancel_right (hpre.trans (List.append_assoc pre ending tail).symm)
    have hplace : Place.advance ⟨pre.reverse ++ b, ending ++ tail⟩ (ending ++ tail.take 1) =
        ⟨(line ++ tail.take 1).reverse ++ b, tail.drop 1⟩ := by
      have hadvance := Place.advance_append (pre.reverse ++ b) (ending ++ tail.take 1) (tail.drop 1)
      rw [List.append_assoc, List.take_append_drop] at hadvance
      rw [hadvance, hsplit]
      simp
    split
    · rw [List.flatMap_singleton, hplace, List.head?_map, List.head?_map,
        head?_ways_fewest fits_terminator_nil]
      simp [Way.append, hsplit]
    · rfl

end QueryBook.QueryFile
