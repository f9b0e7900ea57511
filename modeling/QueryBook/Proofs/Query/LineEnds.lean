import QueryBook.Proofs.Query.Marker
import QueryBook.Proofs.Query.Runs

/-!
# Line ends of query files

A query file may end its lines with a line feed or with a carriage return and a line feed, each line
as it likes. The returns stand at the ends of lines (`Returned.lines`). A marker line is the same
with one behind it (`opened?_return`), and in a query they are blanks next to a line feed, so that
the runs of the query stay as they are. What the reader keeps of a query is seen by normalization
only through its runs (`Reader.shown`), so that it makes the same steps with and without them.
-/

namespace QueryBook.QueryFile

open Text Normalize

/-- The second text is the first one with carriage returns put before some of its line feeds. -/
inductive Returned : List Char → List Char → Prop
  | nil : Returned [] []
  | keep {us vs} (c : Char) (h : Returned us vs) : Returned (c :: us) (c :: vs)
  | put {us vs} (h : Returned us vs) : Returned ('\n' :: us) ('\r' :: '\n' :: vs)

/-- The lines of the second text are those of the first one, which has no carriage returns, some
with a carriage return behind them. The last line has none. -/
inductive SameLines : List (List Char) → List (List Char) → Prop
  | last (line : List Char) : SameLines [line] [line]
  | keep {lines lines'} (line : List Char) (h : SameLines lines lines') :
      SameLines (line :: lines) (line :: lines')
  | put {line lines lines'} (hline : '\r' ∉ line) (h : SameLines lines lines') :
      SameLines (line :: lines) ((line ++ ['\r']) :: lines')

theorem SameLines.isEmpty {lines lines' : List (List Char)} (h : SameLines lines lines') :
    lines.isEmpty = false ∧ lines'.isEmpty = false := by
  cases h <;> exact ⟨rfl, rfl⟩

theorem split_feed (cs : List Char) : split '\n' ('\n' :: cs) = [] :: split '\n' cs :=
  if_pos rfl

theorem split_of_ne {c : Char} (hc : c ≠ '\n') {cs line : List Char} {lines : List (List Char)}
    (h : split '\n' cs = line :: lines) : split '\n' (c :: cs) = (c :: line) :: lines := by
  rw [split, if_neg hc, h]

/-- The carriage returns stand at the ends of lines. -/
theorem Returned.lines {us vs : List Char} (h : Returned us vs) (hus : '\r' ∉ us) :
    SameLines (split '\n' us) (split '\n' vs) := by
  induction h with
  | nil => exact .last []
  | @keep us vs c _ ih =>
    rw [List.mem_cons, not_or] at hus
    by_cases hc : c = '\n'
    · rw [hc, split_feed, split_feed]
      exact .keep [] (ih hus.2)
    · have hlines := ih hus.2
      generalize hus' : split '\n' us = lines, hvs' : split '\n' vs = lines' at hlines
      cases hlines with
      | last line =>
        rw [split_of_ne hc hus', split_of_ne hc hvs']
        exact .last (c :: line)
      | keep line h =>
        rw [split_of_ne hc hus', split_of_ne hc hvs']
        exact .keep (c :: line) h
      | put hline h =>
        rw [split_of_ne hc hus', split_of_ne hc hvs']
        exact .put (by simp [hus.1, hline]) h
  | @put us vs _ ih =>
    rw [split_feed, split_of_ne (by decide) (split_feed vs)]
    exact .put List.not_mem_nil (ih (mt (List.mem_cons_of_mem _) hus))

/-- A line begins the same query with a carriage return behind it. -/
theorem opened?_return {line : List Char} (hline : '\r' ∉ line) :
    opened? (line ++ ['\r']) false = opened? line false := by
  have hmarker : marker? (line ++ ['\r']) = (marker? line).map fun m => (m.1, m.2 ++ ['\r']) := by
    refine marker?_append_tail (fun c hc => ?_) line
    cases hc
    exact Or.inr rfl
  rw [opened?_eq, opened?_eq, hmarker]
  cases h : marker? line with
  | none => rfl
  | some m =>
    obtain ⟨name, ending⟩ := m
    have hending : ending ≠ ['\r'] := by
      rintro rfl
      exact hline (ending_subset_of_marker? h List.mem_cons_self)
    simp [hending]

/-- The runs of lines are those of each line. -/
theorem runs_join (lines : List (List Char)) : runs (join '\n' lines) = lines.flatMap runs := by
  induction lines with
  | nil => exact runs_nil
  | cons line rest ih =>
    cases rest with
    | nil => simp [join]
    | cons next rest =>
      rw [join_cons_of_ne_nil '\n' line (List.cons_ne_nil next rest),
        runs_append_blank line (by decide), ih]
      rfl

namespace Reader

/-- What is left of a reader in what it returns: of the query that is being read only the runs of
its lines. -/
def shown (r : Reader) : QuerySet × List Notice × Option (List Char × List (List (List Char))) :=
  (r.queries, r.notices, r.current?.map fun c => (c.1, c.2.map runs))

theorem close_congr {r s : Reader} (h : r.shown = s.shown) : r.close = s.close := by
  obtain ⟨queries, notices, current?⟩ := r
  obtain ⟨queries', notices', current'?⟩ := s
  simp only [shown, Prod.mk.injEq] at h
  obtain ⟨rfl, rfl, hcurrent⟩ := h
  cases current? with
  | none =>
    cases current'? with
    | none => rfl
    | some c => cases hcurrent
  | some c =>
    cases current'? with
    | none => cases hcurrent
    | some d =>
      obtain ⟨name, body⟩ := c
      obtain ⟨name', body'⟩ := d
      simp only [Option.map_some, Option.some.injEq, Prod.mk.injEq] at hcurrent
      obtain ⟨rfl, hbody⟩ := hcurrent
      have hruns : runs (join '\n' body.reverse) = runs (join '\n' body'.reverse) := by
        rw [runs_join, runs_join, List.flatMap_def, List.flatMap_def, List.map_reverse,
          List.map_reverse, hbody]
      rw [close, close]
      simp only [normal_congr hruns]

/-- Lines that begin the same query and have the same runs are read alike. -/
theorem step_congr {r s : Reader} (h : r.shown = s.shown) {line line' : List Char} {isLast : Bool}
    (hopened : opened? line isLast = opened? line' isLast)
    (hends : isTerminator line = isTerminator line') (hruns : runs line = runs line') :
    (r.step line isLast).shown = (s.step line' isLast).shown := by
  rw [step, step, hends, hopened]
  split
  · rw [close_congr h]
  · simp only [shown, Prod.mk.injEq] at h ⊢
    obtain ⟨hqueries, hnotices, hcurrent⟩ := h
    refine ⟨hqueries, hnotices, ?_⟩
    have hmore := congrArg (Option.map fun c => (c.1, runs line' :: c.2)) hcurrent
    simpa [Option.map_map, Function.comp_def, hruns] using hmore

/-- **A file is read alike with and without carriage returns.** -/
theorem run_sameLines {lines lines' : List (List Char)} (h : SameLines lines lines')
    {r s : Reader} (hshown : r.shown = s.shown) : r.run lines = s.run lines' := by
  induction h generalizing r s with
  | last line => exact close_congr (step_congr hshown rfl rfl rfl)
  | keep line h ih =>
    rw [run, run, h.isEmpty.1, h.isEmpty.2]
    exact ih (step_congr hshown rfl rfl rfl)
  | @put line lines lines' hline h ih =>
    have hopened := (opened?_return hline).symm
    rw [run, run, h.isEmpty.1, h.isEmpty.2]
    refine ih (step_congr hshown hopened ?_ (runs_concat_blank line (by decide)).symm)
    rw [isTerminator_eq, isTerminator_eq, hopened]

end Reader

end QueryBook.QueryFile

namespace QueryBook

open Text QueryFile

/-- **Line ends do not matter.** A text without carriage returns defines the same queries, in the
same order and with the same notices, when carriage returns are put before some of its line
feeds. -/
theorem parseQueries_returned {content other : String} (hcontent : '\r' ∉ content.toList)
    (hother : Returned content.toList other.toList) :
    parseQueries other = parseQueries content := by
  have hrun : Reader.start.run (split '\n' content.toList) =
      Reader.start.run (split '\n' other.toList) :=
    Reader.run_sameLines (hother.lines hcontent) rfl
  rw [parseQueries, parseQueries, QueryFile.read, QueryFile.read, hrun]

/-- Mixed line ends, with a carriage return behind a name and one behind a semicolon. -/
theorem mixed_ends_alike :
    '\r' ∉ "-- name: a\nSELECT\n1;\n".toList ∧
      Returned "-- name: a\nSELECT\n1;\n".toList "-- name: a\r\nSELECT\n1;\r\n".toList ∧
      parseQueries "-- name: a\r\nSELECT\n1;\r\n" = parseQueries "-- name: a\nSELECT\n1;\n" := by
  have hcontent : '\r' ∉ "-- name: a\nSELECT\n1;\n".toList := by decide
  have hother :
      Returned "-- name: a\nSELECT\n1;\n".toList "-- name: a\r\nSELECT\n1;\r\n".toList := by
    repeat constructor
  exact ⟨hcontent, hother, parseQueries_returned hcontent hother⟩

end QueryBook
