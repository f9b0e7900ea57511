import QueryBook.Proofs.NameMap
import QueryBook.Proofs.Query.Shape
import QueryBook.Proofs.Store.Frame
import QueryBook.Proofs.Store.Lookup

/-!
# What holds of every store

A store is sound if its current path is one of its paths and all its queries are such as a file can
define. A new store is sound and every step of a session keeps it so (`Sound.step`), a load because
it puts in what a file defines and makes that path the current one. So the queries of the current
path are always there when a name is looked up, and a text with a blank is never taken for a name
(`sound_after`).
-/

namespace QueryBook

open Text

namespace Store

/-- The current path has queries, and all queries are such as a file can define. -/
structure Sound (s : Store) : Prop where
  current : ∀ path, s.current? = some path → path ∈ s.paths
  clean : ∀ path queries, s.loaded.find? path = some queries → queries.Clean

theorem sound_empty (package : Option String) (encoding : String) :
    Sound (empty package encoding) :=
  ⟨nofun, nofun⟩

theorem Sound.insert {s : Store} (h : s.Sound) (path : String) {queries : QuerySet}
    (hqueries : queries.Clean) : (s.insert path queries).Sound where
  current := by
    rintro _ ⟨⟩
    exact NameMap.mem_names.2 ⟨queries, by simp [Store.insert, NameMap.find?_insert]⟩
  clean p qs hfind := by
    simp only [Store.insert, NameMap.find?_insert] at hfind
    split at hfind
    · cases hfind; exact hqueries
    · exact h.clean p qs hfind

theorem Sound.clear {s : Store} (h : s.Sound) : Sound { s with current? := none } :=
  ⟨nofun, h.clean⟩

section

variable {s : Store} (h : s.Sound)

include h

/-- The queries of the current path are there. -/
theorem Sound.currentQueries? {path : String} (hcurrent : s.current? = some path) :
    ∃ queries, s.currentQueries? = some (path, queries) ∧ queries.Clean := by
  obtain ⟨queries, hfind⟩ := NameMap.mem_names.1 (h.current path hcurrent)
  exact ⟨queries, by simp [Store.currentQueries?, hcurrent, hfind], h.clean path queries hfind⟩

/-- Looking up a name fails without a current path or for a name that is not there, and in no other
way. -/
theorem Sound.byName_error {name : String} {e : Failure}
    (herror : (s.byName name).result = .error e) :
    s.current? = none ∧ e = .query (.noActiveFile none) ∨
      ∃ path, s.current? = some path ∧ e = .query (.notFound name path) := by
  cases hcurrent : s.current? with
  | none =>
    have hnone : s.currentQueries? = none := by simp [Store.currentQueries?, hcurrent]
    rw [result_byName_of_none hnone] at herror
    cases herror
    exact .inl ⟨rfl, rfl⟩
  | some path =>
    obtain ⟨queries, hqueries, -⟩ := h.currentQueries? hcurrent
    rw [result_byName hqueries] at herror
    split at herror
    · cases herror
    · cases herror; exact .inr ⟨path, rfl, rfl⟩

/-- A text with a blank stands for itself. -/
theorem Sound.byNameOrText_of_blank {path text : String} (hcurrent : s.current? = some path)
    (hblank : ∃ c ∈ text.toList, isBlank c = true) : (s.byNameOrText text).result = .ok text := by
  obtain ⟨queries, hqueries, hclean⟩ := h.currentQueries? hcurrent
  rw [result_byNameOrText hqueries, hclean.find?_of_blank hblank, Option.getD_none]

end

end Store

namespace Session

variable {α : Type}

theorem sound_step {x : Session} (h : x.store.Sound) (s : Step α) : (x.step s).1.store.Sound := by
  cases s with
  | change c => exact h
  | request r =>
    have hstep : (x.step (.request r)).1.store = (x.store.perform x.site r).1 := rfl
    obtain ⟨path, text, -, -, -, hstore⟩ | ⟨-, -, hstore⟩ | ⟨-, hstore⟩ :=
      x.store.perform_cases x.site r
    · rw [hstep, hstore]
      exact h.insert path (clean_parseQueries text)
    · rw [hstep, hstore]
      exact h.clear
    · rw [hstep, hstore]
      exact h

theorem sound_after {x : Session} (h : x.store.Sound) (steps : List (Step α)) :
    (x.after steps).store.Sound := by
  induction steps generalizing x with
  | nil => exact h
  | cons s steps ih => exact ih (sound_step h s)

end Session

/-- **What holds of every store that can be reached.** After any steps of a session with a new store
the current path is one of the paths, these are distinct, and under every path there are only names
of at least one character and without blanks, and only texts in which every blank is a single space
between other characters. So a lookup of a name finds the queries of the current path and fails only
without a current path or for a name that is not among them, and a text with a blank is returned as
it is wherever there is a current path. -/
theorem reachable_sound (site : Site) (package : Option String) (encoding : String) {α : Type}
    (steps : List (Step α)) :
    let s := (Session.after ⟨site, .empty package encoding⟩ steps).store
    (∀ path, s.current? = some path →
        path ∈ s.paths ∧ ∃ queries, s.loaded.find? path = some queries) ∧
      s.paths.Nodup ∧
      (∀ path queries, s.loaded.find? path = some queries →
        ∀ name sql, queries.find? name = some sql →
          name ≠ "" ∧ (∀ c ∈ name.toList, isBlank c = false) ∧ Tidy sql.toList) ∧
      (∀ name e, (s.byName name).result = .error e →
        s.current? = none ∧ e = .query (.noActiveFile none) ∨
          ∃ path, s.current? = some path ∧ e = .query (.notFound name path)) ∧
      ∀ path text, s.current? = some path → (∃ c ∈ text.toList, isBlank c = true) →
        (s.byNameOrText text).result = .ok text := by
  intro s
  have h : s.Sound := Session.sound_after (Store.sound_empty package encoding) steps
  refine ⟨fun path hpath => ⟨h.current path hpath, NameMap.mem_names.1 (h.current path hpath)⟩,
    s.loaded.nodup, fun path queries hfind name sql hsql => ?_, fun _ _ => h.byName_error,
    fun _ _ => h.byNameOrText_of_blank⟩
  have hclean := h.clean path queries hfind
  have hname := hclean.name name sql hsql
  exact ⟨hname.ne_empty, hname.solid, hclean.text name sql hsql⟩

end QueryBook
