import QueryBook.Proofs.Query.Sections

/-!
# The definitions of a query file

A marker line both ends the query before it and defines the next one. Every definition is counted:
it puts a name into the map, or there is a notice that its name was there (`foldl_define`), and
there is one for every section. So nothing is lost as long as every marker line has a section, which
is where the two readings of a marker line differ: on the last line of a file a carriage return
still ends a query and begins none (`EndsStray`). `parseQueries_keeps_iff` says that this line is
the only one.
-/

namespace QueryBook.QueryFile

open Text

/-- A marker line with a name, as it ends the query before it. -/
def Marks (line name : List Char) : Prop :=
  IsMarker line name [] ∨ IsMarker line name ['\r']

instance : DecidablePred Terminates := fun _ =>
  decidable_of_iff _ isTerminator_iff

/-- The last line is a marker line with a carriage return at its end. -/
def EndsStray (lines : List (List Char)) : Prop :=
  ∃ line ∈ lines.getLast?, ∃ name, IsMarker line name ['\r']

/-- A report that a name was defined before. -/
def isDuplicate : Notice → Bool
  | .duplicateQuery _ => true
  | _ => false

/-- How many notices report a name that was defined before. -/
def duplicates (notices : List Notice) : Nat :=
  notices.countP isDuplicate

/-- No definition is lost: the name on every marker line has a query, and there are as many marker
lines as there are names and reports of a name that was defined before. -/
def KeepsDefinitions (content : String) : Prop :=
  let lines := split '\n' content.toList
  let result := parseQueries content
  (∀ line ∈ lines, ∀ name, Marks line name → String.ofList name ∈ result.1.names) ∧
    lines.countP (Terminates ·) = result.1.size + duplicates result.2

/-! ## Counting definitions -/

/-- A definition adds a name or is reported as a duplicate. -/
theorem define_counts (q : QuerySet × List Notice) (e : String × String) :
    (define q e).1.size + duplicates (define q e).2 = q.1.size + duplicates q.2 + 1 := by
  have hempty : duplicates (if e.2 = "" then [.emptyQuery e.1] else []) = 0 := by
    split <;> rfl
  have hnotices : duplicates (define q e).2 =
      duplicates q.2 + if q.1.contains e.1 then 1 else 0 := by
    rw [define, duplicates, List.countP_append, List.countP_append, ← duplicates, ← duplicates,
      ← duplicates, hempty]
    split <;> rfl
  rw [hnotices, define, NameMap.size_insert]
  split <;> omega

theorem foldl_define (es : List (String × String)) (q : QuerySet × List Notice) :
    (es.foldl define q).1.size + duplicates (es.foldl define q).2 =
      q.1.size + duplicates q.2 + es.length := by
  induction es generalizing q with
  | nil => rfl
  | cons e es ih =>
    rw [List.foldl_cons, ih, define_counts, List.length_cons]
    omega

/-! ## Marker lines and sections -/

/-- A marker line that begins no query is the last one and ends in a carriage return. -/
theorem stray_iff {line : List Char} {isLast : Bool} :
    (Terminates line ∧ ∀ name, ¬ Opens line name isLast) ↔
      isLast = true ∧ ∃ name, IsMarker line name ['\r'] := by
  constructor
  · rintro ⟨⟨name, hnil | hreturn⟩, hnone⟩
    · exact absurd (.inl hnil) (hnone name)
    · refine ⟨?_, name, hreturn⟩
      by_contra hlast
      exact hnone name (.inr ⟨hreturn, by simpa using hlast⟩)
  · rintro ⟨rfl, name, hreturn⟩
    refine ⟨⟨name, .inr hreturn⟩, fun name' hopens => ?_⟩
    rcases hopens with hnil | ⟨-, hlast⟩
    · have hread := (hnil.marker?_eq nofun).symm.trans hreturn.marker?_return
      cases hread
    · cases hlast

theorem endsStray_cons {line : List Char} {rest : List (List Char)} :
    EndsStray (line :: rest) ↔
      (Terminates line ∧ ∀ name, ¬ Opens line name rest.isEmpty) ∨ EndsStray rest := by
  rw [stray_iff]
  cases rest with
  | nil => simp [EndsStray]
  | cons next rest => simp [EndsStray]

/-- Marker lines are sections, but for one that ends the last query only. -/
theorem Sections.count {lines : List (List Char)} {ds : List (List Char × List Char)}
    (h : Sections lines ds) :
    (¬ EndsStray lines ∧ lines.countP (Terminates ·) = ds.length) ∨
      (EndsStray lines ∧ lines.countP (Terminates ·) = ds.length + 1) := by
  induction h with
  | nil => exact .inl ⟨by simp [EndsStray], rfl⟩
  | @opener line name text rest ds hopens hbody hrest ih =>
    have hends : Terminates line := ⟨name, hopens.imp_right And.left⟩
    have hstray : EndsStray (line :: rest) ↔ EndsStray rest := by
      rw [endsStray_cons, or_iff_right]
      exact fun hnone => hnone.2 name hopens
    rw [hstray, List.countP_cons_of_pos (by simpa using hends), List.length_cons]
    exact ih.imp (And.imp_right fun hcount => by omega) (And.imp_right fun hcount => by omega)
  | @other line rest ds hother hrest ih =>
    by_cases hends : Terminates line
    · have hlast := (stray_iff.1 ⟨hends, hother⟩).1
      obtain rfl := List.isEmpty_iff.1 hlast
      cases hrest
      refine .inr ⟨endsStray_cons.2 (.inl ⟨hends, hother⟩), ?_⟩
      rw [List.countP_cons_of_pos (by simpa using hends)]
      rfl
    · have hstray : EndsStray (line :: rest) ↔ EndsStray rest := by
        rw [endsStray_cons, or_iff_right fun hstray => hends hstray.1]
      rwa [hstray, List.countP_cons_of_neg (by simpa using hends)]

/-- Every line that begins a query has its section. -/
theorem Sections.mem {lines : List (List Char)} {ds : List (List Char × List Char)}
    (h : Sections lines ds) {before rest : List (List Char)} {line name : List Char}
    (hlines : lines = before ++ line :: rest) (hopens : Opens line name rest.isEmpty) :
    ∃ text, (name, text) ∈ ds := by
  induction h generalizing before with
  | nil => simp at hlines
  | @opener first name' text rest' ds hopens' hbody hrest ih =>
    cases before with
    | nil =>
      obtain ⟨rfl, rfl⟩ := List.cons.inj hlines
      have hname := (opened?_eq_some.2 hopens).symm.trans (opened?_eq_some.2 hopens')
      exact ⟨text, by simp [Option.some.inj hname]⟩
    | cons _ before =>
      obtain ⟨text', htext⟩ := ih (List.cons.inj hlines).2
      exact ⟨text', List.mem_cons_of_mem _ htext⟩
  | @other first rest' ds hother hrest ih =>
    cases before with
    | nil =>
      obtain ⟨rfl, rfl⟩ := List.cons.inj hlines
      exact absurd hopens (hother name)
    | cons _ before => exact ih (List.cons.inj hlines).2

theorem opens_of_marks {line name : List Char} {isLast : Bool} (h : Marks line name)
    (hlast : isLast = true → ∀ name', ¬ IsMarker line name' ['\r']) : Opens line name isLast := by
  refine h.imp_right fun hreturn => ⟨hreturn, ?_⟩
  by_contra hend
  exact hlast (by simpa using hend) name hreturn

theorem mem_names_of_opens {content : List Char} {before rest : List (List Char)}
    {line name : List Char} (hlines : split '\n' content = before ++ line :: rest)
    (hopens : Opens line name rest.isEmpty) : String.ofList name ∈ (read content).1.names := by
  obtain ⟨ds, hds⟩ := exists_sections (split '\n' content)
  obtain ⟨text, htext⟩ := hds.mem hlines hopens
  rw [read_sections hds, NameMap.names_ofEntries, List.mem_eraseDups, List.map_map]
  exact List.mem_map.2 ⟨(name, text), htext, rfl⟩

theorem read_counts {content : List Char} {ds : List (List Char × List Char)}
    (h : Sections (split '\n' content) ds) :
    (read content).1.size + duplicates (read content).2 = ds.length := by
  rw [read_eq h, foldl_define, List.length_map]
  exact Nat.zero_add _

end QueryBook.QueryFile

namespace QueryBook

open Text QueryFile

/-- **When a query file keeps its definitions.** It does if and only if its last line is no marker
line with a carriage return at its end. That line ends the query before it, and it is the only
definition that is lost: the names on the other marker lines have queries, and there is exactly one
marker line more than names and reports of a name that was defined before. -/
theorem parseQueries_keeps_iff (content : String) :
    let lines := split '\n' content.toList
    let result := parseQueries content
    (KeepsDefinitions content ↔ ¬ EndsStray lines) ∧
      (EndsStray lines →
        (∀ line ∈ lines.dropLast, ∀ name, Marks line name →
          String.ofList name ∈ result.1.names) ∧
        lines.countP (Terminates ·) = result.1.size + duplicates result.2 + 1) := by
  intro lines result
  obtain ⟨ds, hds⟩ := exists_sections lines
  have hcounts : result.1.size + duplicates result.2 = ds.length := read_counts hds
  rw [hcounts]
  rcases hds.count with ⟨hstray, hcount⟩ | ⟨hstray, hcount⟩
  · refine ⟨iff_of_true ⟨fun line hline name hmarks => ?_, hcount.trans hcounts.symm⟩ hstray,
      fun h => absurd h hstray⟩
    obtain ⟨before, rest, hlines⟩ := List.append_of_mem hline
    refine mem_names_of_opens hlines (opens_of_marks hmarks fun hlast name' hreturn => hstray ?_)
    rw [List.isEmpty_iff.1 hlast] at hlines
    exact ⟨line, by simp [lines, hlines], name', hreturn⟩
  · refine ⟨iff_of_false (fun hkeeps => ?_) (not_not_intro hstray), fun _ => ⟨?_, hcount⟩⟩
    · have hsame : lines.countP (Terminates ·) = ds.length := hkeeps.2.trans hcounts
      omega
    · intro line hline name hmarks
      obtain ⟨before, rest, hinit⟩ := List.append_of_mem hline
      have hlines : lines = before ++ line :: (rest ++ [lines.getLast (split_ne_nil _ _)]) := by
        rw [← List.cons_append, ← List.append_assoc, ← hinit, List.dropLast_append_getLast]
      exact mem_names_of_opens hlines (opens_of_marks hmarks (by simp))

/-- The last line names a query and ends the one before it, but it begins none. -/
theorem not_keeps_returned_marker :
    ¬ KeepsDefinitions "-- name: a\nSELECT 1;\n-- name: b\r" := by
  intro h
  have hline : "-- name: b\r".toList ∈
      split '\n' "-- name: a\nSELECT 1;\n-- name: b\r".toList := by decide
  have hmarks : Marks "-- name: b\r".toList ['b'] :=
    .inr ⟨[' '], [' '], [], rfl, by simp [isGap], List.cons_ne_nil _ _,
      List.forall_mem_singleton.2 (by decide)⟩
  have hnames : (parseQueries "-- name: a\nSELECT 1;\n-- name: b\r").1.names = ["a"] := by
    decide
  have hmem := h.1 _ hline _ hmarks
  rw [hnames] at hmem
  exact absurd hmem (by decide)

end QueryBook
