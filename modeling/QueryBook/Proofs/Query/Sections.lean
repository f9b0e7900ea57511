import QueryBook.Proofs.NameMap
import QueryBook.Proofs.Query.Marker
import QueryBook.Proofs.Query.Runs

/-!
# The sections of a query file

A query file is a list of lines, and its sections are the lines that open a query, each with the
text behind it up to the next line that ends a query (`Sections`). Every list of lines has exactly
one list of sections (`exists_sections`, `Sections.det`). They are what the pattern of a query
matches, from match to match (`findAll_sections`): a match ends where the next marker line begins,
and no query begins in the text before that, so that the search could as well go on behind the
opener. And they are what the reader defines, one after another (`Reader.run_sections`), although it
joins the lines of a query without the line feed behind the last one, which normalization does not
see. `parseQueries_sections` puts these together.
-/

namespace QueryBook.QueryFile

open Text Pattern Normalize

/-- The text of a query: that of its own lines, which go up to a line that ends it or to the end. -/
def Body (lines : List (List Char)) (text : List Char) : Prop :=
  ∃ own rest, lines = own ++ rest ∧ (∀ line ∈ own, ¬ Terminates line) ∧
    (∀ line ∈ rest.head?, Terminates line) ∧ join '\n' lines = text ++ join '\n' rest

/-- The names and texts of the queries that some lines open, in order. -/
inductive Sections : List (List Char) → List (List Char × List Char) → Prop
  | nil : Sections [] []
  | opener {line name text rest ds} (hopens : Opens line name rest.isEmpty)
      (hbody : Body rest text) (hrest : Sections rest ds) :
      Sections (line :: rest) ((name, text) :: ds)
  | other {line rest ds} (hother : ∀ name, ¬ Opens line name rest.isEmpty)
      (hrest : Sections rest ds) : Sections (line :: rest) ds

/-! ## Where a query ends -/

/-- The lines up to the first one that ends a query. -/
def own (lines : List (List Char)) : List (List Char) :=
  lines.takeWhile fun line => !isTerminator line

/-- The lines from the first one that ends a query on. -/
def others (lines : List (List Char)) : List (List Char) :=
  lines.dropWhile fun line => !isTerminator line

theorem own_terminator {line : List Char} (h : isTerminator line = true)
    (rest : List (List Char)) : own (line :: rest) = [] ∧ others (line :: rest) = line :: rest := by
  simp [own, others, h]

theorem own_line {line : List Char} (h : isTerminator line = false) (rest : List (List Char)) :
    own (line :: rest) = line :: own rest ∧ others (line :: rest) = others rest := by
  simp [own, others, h]

/-- The own lines of a query and the others are where every line that ends one cuts them. -/
theorem eq_own_others {us vs : List (List Char)} (hus : ∀ line ∈ us, ¬ Terminates line)
    (hvs : ∀ line ∈ vs.head?, Terminates line) : own (us ++ vs) = us ∧ others (us ++ vs) = vs := by
  refine takeWhile_dropWhile_run (fun line hline => ?_) fun line hline => ?_
  · simpa using Bool.eq_false_iff.2 fun h => hus line hline (isTerminator_iff.1 h)
  · simpa using isTerminator_iff.2 (hvs line hline)

theorem not_terminates_of_mem_own {lines : List (List Char)} {line : List Char}
    (h : line ∈ own lines) : ¬ Terminates line := by
  have hline := List.mem_takeWhile_imp h
  rw [← isTerminator_iff]
  simpa using hline

theorem terminates_of_mem_others {lines : List (List Char)} {line : List Char}
    (h : line ∈ (others lines).head?) : Terminates line := by
  rw [← isTerminator_iff]
  induction lines with
  | nil => cases h
  | cons first rest ih =>
    cases hfirst : isTerminator first with
    | true => rw [(own_terminator hfirst rest).2] at h; cases h; exact hfirst
    | false => rw [(own_line hfirst rest).2] at h; exact ih h

/-- The text of a query is what the first line that ends it cuts off. -/
theorem body_iff {lines : List (List Char)} {text : List Char} :
    Body lines text ↔ join '\n' lines = text ++ join '\n' (others lines) := by
  constructor
  · rintro ⟨us, vs, rfl, hus, hvs, hjoin⟩
    rwa [(eq_own_others hus hvs).2]
  · intro h
    exact ⟨own lines, others lines, List.takeWhile_append_dropWhile.symm,
      fun _ => not_terminates_of_mem_own, fun _ => terminates_of_mem_others, h⟩

/-! ## The lines of a text -/

/-- What is behind a line, if there are more. -/
def behind : List (List Char) → List Char
  | [] => []
  | lines => '\n' :: join '\n' lines

theorem join_cons (line : List Char) (rest : List (List Char)) :
    join '\n' (line :: rest) = line ++ behind rest := by
  cases rest with
  | nil => exact (List.append_nil line).symm
  | cons => rfl

theorem lineTail_behind (rest : List (List Char)) : LineTail (behind rest) := by
  cases rest with
  | nil => rintro c ⟨⟩
  | cons => rintro c ⟨⟩; rfl

theorem drop_behind (rest : List (List Char)) : (behind rest).drop 1 = join '\n' rest := by
  cases rest <;> rfl

theorem isEmpty_behind (rest : List (List Char)) : (behind rest).isEmpty = rest.isEmpty := by
  cases rest <;> rfl

/-- A line together with the line feed behind it, if there is one. -/
def withFeed (line : List Char) (rest : List (List Char)) : List Char :=
  line ++ (behind rest).take 1

theorem join_eq_withFeed (line : List Char) (rest : List (List Char)) :
    join '\n' (line :: rest) = withFeed line rest ++ join '\n' rest := by
  rw [join_cons, withFeed, List.append_assoc, ← drop_behind, List.take_append_drop]

/-- The first of some lines begins at a line start. -/
def AtLine (b : List Char) (lines : List (List Char)) : Prop :=
  lines ≠ [] → b.head?.all (· == '\n') = true

theorem AtLine.next (line : List Char) (rest : List (List Char)) (b : List Char) :
    AtLine ((withFeed line rest).reverse ++ b) rest := by
  intro hrest
  obtain ⟨first, more, rfl⟩ := List.exists_cons_of_ne_nil hrest
  simp [withFeed, behind]

/-- A pattern that matches only at line starts, or at the end of the text. -/
def OnlyAtLines (a : Pattern) : Prop :=
  ∀ b cs, cs ≠ [] → b.head?.all (· == '\n') = false → a.fits ⟨b, cs⟩ = false

/-- Such a pattern matches nowhere in a line if not at its start. -/
theorem misses_line {a : Pattern} (ha : OnlyAtLines a) {b line : List Char}
    {rest : List (List Char)} (hline : '\n' ∉ line)
    (hstart : join '\n' (line :: rest) ≠ [] → a.fits ⟨b, join '\n' (line :: rest)⟩ = false) :
    Misses a b (withFeed line rest) (join '\n' rest) := by
  intro pre suf hsplit hsuf
  cases pre using List.reverseRecOn with
  | nil =>
    rw [List.nil_append] at hsplit
    rw [join_eq_withFeed, hsplit] at hstart
    exact hstart (by simp [hsuf])
  | append_singleton pre c =>
    -- only the last character of the line with its feed can be a feed, and there is more behind `c`
    have hc : c ∈ line := by
      rw [withFeed] at hsplit
      rcases List.append_eq_append_iff.1 hsplit with ⟨zs, hzs, hfeed⟩ | ⟨zs, hzs, -⟩
      · have hlength : zs.length + suf.length ≤ 1 := by
          rw [← List.length_append, ← hfeed]
          exact List.length_take_le 1 _
        have hpos := List.length_pos_iff.2 hsuf
        have hnil : zs = [] := List.length_eq_zero_iff.1 (by omega)
        rw [hnil, List.append_nil] at hzs
        simp [← hzs]
      · simp [hzs]
    have hne : c ≠ '\n' := fun h => hline (h ▸ hc)
    exact ha _ _ (by simp [hsuf]) (by simp [hne])

theorem onlyAtLines_terminator : OnlyAtLines terminator :=
  fun _ _ hne hstart => fits_terminator_of_not_startsLine hne hstart

theorem onlyAtLines_namedQuery : OnlyAtLines namedQuery :=
  fun _ _ _ hstart => fits_eq_false.2 (ways_marker_of_not_startsLine hstart)

section

variable {b line : List Char} {rest : List (List Char)}

theorem misses_terminator (hb : AtLine b (line :: rest)) (hline : '\n' ∉ line)
    (h : isTerminator line = false) :
    Misses terminator b (withFeed line rest) (join '\n' rest) := by
  refine misses_line onlyAtLines_terminator hline fun hne => ?_
  rw [join_cons] at hne ⊢
  rw [fits_terminator (hb (List.cons_ne_nil _ _)) hline (lineTail_behind rest) hne]
  exact h

theorem misses_namedQuery (hb : AtLine b (line :: rest)) (hline : '\n' ∉ line)
    (h : opened? line rest.isEmpty = none) :
    Misses namedQuery b (withFeed line rest) (join '\n' rest) := by
  refine misses_line onlyAtLines_namedQuery hline fun _ => ?_
  rw [join_cons, fits_eq_false, ← List.head?_eq_none_iff,
    head?_ways_namedQuery (hb (List.cons_ne_nil _ _)) hline (lineTail_behind rest),
    isEmpty_behind, h]
  rfl

end

theorem opened?_of_not_terminator {line : List Char} (h : isTerminator line = false)
    (isLast : Bool) : opened? line isLast = none := by
  cases hopened : opened? line isLast with
  | none => rfl
  | some name =>
    rw [isTerminator_of_opened? hopened] at h
    cases h

/-- The lazy text of a query is its body, and no query begins in it. -/
theorem upTo_terminator {b : List Char} {lines : List (List Char)} (hb : AtLine b lines)
    (hlines : ∀ line ∈ lines, '\n' ∉ line) :
    let text := upTo terminator b (join '\n' lines)
    join '\n' lines = text ++ join '\n' (others lines) ∧
      findAll namedQuery b (join '\n' lines) =
        findAll namedQuery (text.reverse ++ b) (join '\n' (others lines)) := by
  induction lines generalizing b with
  | nil => exact ⟨rfl, rfl⟩
  | cons line rest ih =>
    have hline : '\n' ∉ line := hlines line List.mem_cons_self
    cases h : isTerminator line with
    | true =>
      have hstart := hb (List.cons_ne_nil line rest)
      have hne : line ++ behind rest ≠ [] := by
        obtain ⟨_, (⟨_, _, _, rfl, -⟩ | ⟨_, _, _, rfl, -⟩)⟩ := isTerminator_iff.1 h <;> simp
      have hfits := fits_terminator hstart hline (lineTail_behind rest) hne
      obtain ⟨c, cs, hcs⟩ := List.exists_cons_of_ne_nil hne
      have hnil : upTo terminator b (join '\n' (line :: rest)) = [] := by
        rw [join_cons, hcs, upTo, ← hcs, hfits, h, if_pos rfl]
      simp only [hnil, (own_terminator h rest).2]
      exact ⟨rfl, rfl⟩
    | false =>
      obtain ⟨hjoin, hfind⟩ := ih (AtLine.next line rest b) fun l hl =>
        hlines l (List.mem_cons_of_mem _ hl)
      have hup := upTo_append (misses_terminator hb hline h)
      have hgo := findAll_append (misses_namedQuery hb hline (opened?_of_not_terminator h _))
      rw [← join_eq_withFeed] at hup hgo
      simp only [hup, hgo, (own_line h rest).2, hfind]
      refine ⟨?_, by simp⟩
      rw [join_eq_withFeed, List.append_assoc, ← hjoin]

/-- **The matches of a query in a text are its sections.** -/
theorem findAll_sections {lines : List (List Char)} {ds : List (List Char × List Char)}
    (h : Sections lines ds) {b : List Char} (hb : AtLine b lines)
    (hlines : ∀ line ∈ lines, '\n' ∉ line) :
    (findAll namedQuery b (join '\n' lines)).map (·.groups) = ds.map fun d => [d.1, d.2] := by
  induction h generalizing b with
  | nil =>
    rw [show join '\n' [] = [] from rfl, findAll, ways_namedQuery_nil]
    rfl
  | @opener line name text rest ds hopens hbody hrest ih =>
    have hnext := AtLine.next line rest b
    have hrestLines : ∀ l ∈ rest, '\n' ∉ l := fun l hl => hlines l (List.mem_cons_of_mem _ hl)
    obtain ⟨hjoin, hskip⟩ := upTo_terminator hnext hrestLines
    have htext : upTo terminator ((withFeed line rest).reverse ++ b) (join '\n' rest) = text :=
      List.append_cancel_right (hjoin.symm.trans (body_iff.1 hbody))
    rw [htext] at hskip
    have hhead := head?_ways_namedQuery (hb (List.cons_ne_nil line rest))
      (hlines line List.mem_cons_self) (lineTail_behind rest)
    rw [isEmpty_behind, opened?_eq_some.2 hopens, drop_behind, ← withFeed, htext,
      ← join_cons, Option.map_some] at hhead
    have hne : withFeed line rest ++ text ≠ [] := by
      rcases hopens with ⟨_, _, _, rfl, -⟩ | ⟨⟨_, _, _, rfl, -⟩, -⟩ <;> simp [withFeed]
    have hsplit : join '\n' (line :: rest) =
        withFeed line rest ++ text ++ join '\n' (others rest) := by
      rw [join_eq_withFeed, body_iff.1 hbody, List.append_assoc]
    rw [hsplit] at hhead ⊢
    rw [findAll_of_head? hne hhead rfl, List.reverse_append, List.append_assoc, ← hskip,
      List.map_cons, ih hnext hrestLines]
    rfl
  | @other line rest ds hother hrest ih =>
    have hnone : opened? line rest.isEmpty = none :=
      Option.eq_none_iff_forall_ne_some.2 fun name h => hother name (opened?_eq_some.1 h)
    rw [join_eq_withFeed,
      findAll_append (misses_namedQuery hb (hlines line List.mem_cons_self) hnone)]
    exact ih (AtLine.next line rest b) fun l hl => hlines l (List.mem_cons_of_mem _ hl)

/-! ## Lines have one list of sections -/

theorem exists_body (lines : List (List Char)) : ∃ text, Body lines text := by
  simp only [body_iff]
  induction lines with
  | nil => exact ⟨[], rfl⟩
  | cons line rest ih =>
    cases h : isTerminator line with
    | true => exact ⟨[], by rw [(own_terminator h rest).2]; rfl⟩
    | false =>
      obtain ⟨text, htext⟩ := ih
      refine ⟨withFeed line rest ++ text, ?_⟩
      rw [(own_line h rest).2, join_eq_withFeed, htext, List.append_assoc]

theorem exists_sections (lines : List (List Char)) : ∃ ds, Sections lines ds := by
  induction lines with
  | nil => exact ⟨[], .nil⟩
  | cons line rest ih =>
    obtain ⟨ds, hrest⟩ := ih
    cases h : opened? line rest.isEmpty with
    | none =>
      refine ⟨ds, .other (fun name hopens => ?_) hrest⟩
      rw [opened?_eq_some.2 hopens] at h
      cases h
    | some name =>
      obtain ⟨text, hbody⟩ := exists_body rest
      exact ⟨(name, text) :: ds, .opener (opened?_eq_some.1 h) hbody hrest⟩

theorem Sections.det {lines : List (List Char)} {ds ds' : List (List Char × List Char)}
    (h : Sections lines ds) (h' : Sections lines ds') : ds = ds' := by
  induction h generalizing ds' with
  | nil => cases h'; rfl
  | opener hopens hbody hrest ih =>
    cases h' with
    | opener hopens' hbody' hrest' =>
      have hname := (opened?_eq_some.2 hopens).symm.trans (opened?_eq_some.2 hopens')
      have htext := (body_iff.1 hbody).symm.trans (body_iff.1 hbody')
      rw [Option.some.inj hname, List.append_cancel_right htext, ih hrest']
    | other hother => exact absurd hopens (hother _)
  | other hother hrest ih =>
    cases h' with
    | opener hopens => exact absurd hopens (hother _)
    | other hother' hrest' => exact ih hrest'

/-! ## Reading the lines -/

/-- The query that a section defines: its name and its text in normal form. -/
def entry (d : List Char × List Char) : String × String :=
  (String.ofList d.1, normalize (String.ofList d.2))

/-- The queries and notices when one more query is defined. -/
def define (q : QuerySet × List Notice) (e : String × String) : QuerySet × List Notice :=
  (q.1.insert e.1 e.2,
    q.2 ++ (if q.1.contains e.1 then [.duplicateQuery e.1] else []) ++
      if e.2 = "" then [.emptyQuery e.1] else [])

theorem join_append {us vs : List (List Char)} (hus : us ≠ []) (hvs : vs ≠ []) :
    join '\n' (us ++ vs) = join '\n' us ++ '\n' :: join '\n' vs := by
  induction us with
  | nil => exact absurd rfl hus
  | cons u us ih =>
    cases us with
    | nil => exact join_cons_of_ne_nil '\n' u hvs
    | cons w us =>
      have hrest := ih (List.cons_ne_nil w us)
      rw [List.cons_append, join_cons_of_ne_nil '\n' u (by simp), hrest,
        join_cons_of_ne_nil '\n' u (List.cons_ne_nil w us)]
      simp

/-- The text of a query is its own lines, with a line feed behind the last if more lines follow. -/
theorem Body.eq_or {lines : List (List Char)} {text : List Char} (h : Body lines text) :
    text = join '\n' (own lines) ∨ text = join '\n' (own lines) ++ ['\n'] := by
  obtain ⟨us, vs, rfl, hus, hvs, hjoin⟩ := h
  rw [(eq_own_others hus hvs).1]
  by_cases hnil : us = [] ∨ vs = []
  · left
    rcases hnil with rfl | rfl
    · rw [List.nil_append] at hjoin
      simpa [join] using hjoin
    · simpa [join] using hjoin.symm
  · rw [not_or] at hnil
    right
    rw [join_append hnil.1 hnil.2, List.append_cons] at hjoin
    exact (List.append_cancel_right hjoin).symm

/-- Normalization does not see that line feed. -/
theorem normal_body {lines : List (List Char)} {text : List Char} (h : Body lines text) :
    normal text = normal (join '\n' (own lines)) := by
  rcases h.eq_or with rfl | rfl
  · rfl
  · exact normal_congr (runs_concat_blank _ (by decide))

namespace Reader

/-- The reader with more lines of the query that is being read. -/
def extend (r : Reader) (lines : List (List Char)) : Reader :=
  { r with current? := r.current?.map fun c => (c.1, lines.reverse ++ c.2) }

/-- What has been read so far. -/
def result (r : Reader) : QuerySet × List Notice :=
  (r.queries, r.notices)

theorem extend_nil (r : Reader) : r.extend [] = r := by
  cases r with
  | mk queries notices current? => cases current? <;> rfl

theorem extend_cons (r : Reader) (line : List Char) (lines : List (List Char)) :
    r.extend (line :: lines) = (r.extend [line]).extend lines := by
  cases r with
  | mk queries notices current? => cases current? <;> simp [extend]

theorem result_close_of_none {r : Reader} (h : r.current? = none) : r.close.result = r.result := by
  rw [close, h]

/-- A query is defined when it ends. -/
theorem result_close_of_some {r : Reader} {name : List Char} {body : List (List Char)}
    (h : r.current? = some (name, body)) :
    r.close.result =
      define r.result (String.ofList name, String.ofList (normal (join '\n' body.reverse))) := by
  simp only [close, h, result, define, String.ofList_eq_empty_iff, List.isEmpty_iff]
  rfl

/-- **The reader defines the sections in order**, behind the query that is being read. -/
theorem run_sections {lines : List (List Char)} {ds : List (List Char × List Char)}
    (h : Sections lines ds) (r : Reader) :
    (r.run lines).result = (ds.map entry).foldl define (r.extend (own lines)).close.result := by
  induction h generalizing r with
  | nil => rw [own, List.takeWhile_nil, extend_nil]; rfl
  | @opener line name text rest ds hopens hbody hrest ih =>
    have hopened := opened?_eq_some.2 hopens
    have hends := isTerminator_of_opened? hopened
    rw [run, ih, (own_terminator hends rest).1, extend_nil, step, if_pos hends, hopened]
    have hentry : entry (name, text) =
        (String.ofList name, String.ofList (normal (join '\n' (own rest)))) := by
      rw [entry, normalize, String.toList_ofList, normal_body hbody]
    have hcurrent : (extend { r.close with current? := some (name, []) } (own rest)).current? =
        some (name, (own rest).reverse) := by simp [extend]
    rw [Option.map_some, result_close_of_some hcurrent, List.reverse_reverse, ← hentry]
    rfl
  | @other line rest ds hother hrest ih =>
    rw [run, ih]
    cases hends : isTerminator line with
    | false =>
      rw [(own_line hends rest).1, extend_cons, step, if_neg (by simp [hends])]
      rfl
    | true =>
      have hnone : opened? line rest.isEmpty = none :=
        Option.eq_none_iff_forall_ne_some.2 fun name h => hother name (opened?_eq_some.1 h)
      rw [(own_terminator hends rest).1, extend_nil, step, if_pos hends, hnone]
      rw [result_close_of_none rfl]
      rfl

end Reader

theorem lookup_map_entry (ds : List (List Char × List Char)) (name : String) :
    (ds.map entry).lookup name = (ds.find? fun d => String.ofList d.1 == name).map
      fun d => normalize (String.ofList d.2) := by
  induction ds with
  | nil => rfl
  | cons d ds ih =>
    rw [List.map_cons, entry, NameMap.lookup_entry, ih]
    by_cases h : String.ofList d.1 = name
    · rw [List.find?_cons_of_pos (by simp [h]), if_pos h.symm]
      rfl
    · rw [List.find?_cons_of_neg (by simp [h]), if_neg (Ne.symm h)]

/-- A file is read by defining its sections in order. -/
theorem read_eq {content : List Char} {ds : List (List Char × List Char)}
    (h : Sections (split '\n' content) ds) :
    read content = (ds.map entry).foldl define (.empty, []) :=
  Reader.run_sections h Reader.start

/-- The queries of a file are its sections, inserted in order. -/
theorem read_sections {content : List Char} {ds : List (List Char × List Char)}
    (h : Sections (split '\n' content) ds) :
    (read content).1 = NameMap.ofEntries (ds.map entry) := by
  rw [read_eq h, NameMap.ofEntries]
  exact (List.foldl_hom Prod.fst fun _ _ => rfl).symm

end QueryBook.QueryFile

namespace QueryBook

open Text QueryFile

/-- **A query file is read by lines as by its pattern.** The lines of a text have exactly one list
of sections. They are what the pattern of a query matches, from match to match; the names of the
queries are those of the sections, each at its first place; and a query is the normal form of the
text of the last section of its name. -/
theorem parseQueries_sections (content : String) :
    ∃ ds, (∀ ds', Sections (split '\n' content.toList) ds' ↔ ds' = ds) ∧
      (Pattern.findAll namedQuery [] content.toList).map (·.groups) =
        ds.map (fun d => [d.1, d.2]) ∧
      (parseQueries content).1.names = (ds.map fun d => String.ofList d.1).eraseDups ∧
      ∀ name, (parseQueries content).1.find? name =
        (ds.reverse.find? fun d => String.ofList d.1 == name).map
          fun d => normalize (String.ofList d.2) := by
  obtain ⟨ds, h⟩ := exists_sections (split '\n' content.toList)
  have hread : (parseQueries content).1 = NameMap.ofEntries (ds.map entry) := read_sections h
  refine ⟨ds, fun ds' => ⟨fun h' => h'.det h, fun h' => h' ▸ h⟩, ?_, ?_, fun name => ?_⟩
  · have hfind := findAll_sections h (b := []) (fun _ => rfl) fun _ => notMem_of_mem_split
    rwa [join_split] at hfind
  · rw [hread, NameMap.names_ofEntries, List.map_map]
    rfl
  · rw [hread, NameMap.find?_ofEntries, ← List.map_reverse, lookup_map_entry]

/-- On the last line a carriage return keeps a marker from opening a query, but not from ending
one. -/
example : (parseQueries "-- name: a\nSELECT 1;\n-- name: b\r").1.entries = [("a", "SELECT 1")] := by
  decide

end QueryBook
