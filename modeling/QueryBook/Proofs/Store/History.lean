import QueryBook.Proofs.NameMap
import QueryBook.Proofs.Store.Frame
import QueryBook.Proofs.Store.Lookup

/-!
# A store is its history

The history of a session is the list of its events: the loads that succeeded, each with its path and
the text that its source had at that time, and the clearings of the current path. It decides the
store (`Store.ofHistory`): the current path is that of the last event, and each path has the queries
of its last text. `store_step` says this of one step and `store_after` of a whole session, by
induction on its steps. `store_refines_history` reads off what the store answers.
-/

namespace QueryBook

/-- What happens to a store: the text of a path is loaded, or the current path is cleared. -/
inductive Event where
  | loaded (path text : String)
  | cleared
  deriving DecidableEq, Repr

/-- The path and the text of a load. -/
def Event.load? : Event → Option (String × String)
  | loaded path text => some (path, text)
  | cleared => none

/-- The events of a store, in order. -/
abbrev History := List Event

namespace History

/-- The loads, in order. -/
def loads (es : History) : List (String × String) :=
  es.filterMap Event.load?

/-- The path of the last event, if that is a load. -/
def current? (es : History) : Option String :=
  (es.getLast?.bind Event.load?).map (·.1)

/-- The text of the last load of a path. -/
def text? (es : History) (path : String) : Option String :=
  es.loads.reverse.lookup path

/-- The query of a name in that text. -/
def query? (es : History) (path name : String) : Option String :=
  (es.text? path).bind fun text => (parseQueries text).1.find? name

theorem loads_concat_loaded (es : History) (path text : String) :
    loads (es ++ [.loaded path text]) = es.loads ++ [(path, text)] := by
  simp [loads, Event.load?]

theorem loads_concat_cleared (es : History) : loads (es ++ [.cleared]) = es.loads := by
  simp [loads, Event.load?]

theorem current?_concat (es : History) (e : Event) :
    current? (es ++ [e]) = e.load?.map (·.1) := by
  simp [current?]

/-- The current path was loaded. -/
theorem exists_text_of_current? {es : History} {path : String} (h : es.current? = some path) :
    ∃ text, es.text? path = some text := by
  cases es using List.reverseRecOn with
  | nil => cases h
  | append_singleton es e =>
    rw [current?_concat] at h
    cases e with
    | cleared => cases h
    | loaded p text =>
      cases h
      refine ⟨text, ?_⟩
      rw [text?, loads_concat_loaded, List.reverse_concat, List.lookup_cons_self]

end History

namespace Store

/-- The store that events make. -/
def ofHistory (package : Option String) (encoding : String) (es : History) : Store where
  package := package
  encoding := encoding
  loaded := .ofEntries (es.loads.map fun l => (l.1, (parseQueries l.2).1))
  current? := es.current?

section

variable (package : Option String) (encoding : String)

theorem ofHistory_nil : ofHistory package encoding [] = empty package encoding := rfl

theorem ofHistory_concat_loaded (es : History) (path text : String) :
    ofHistory package encoding (es ++ [.loaded path text]) =
      (ofHistory package encoding es).insert path (parseQueries text).1 := by
  rw [ofHistory, History.loads_concat_loaded, History.current?_concat, List.map_append]
  exact congrArg (fun m => (⟨package, encoding, m, some path⟩ : Store))
    (NameMap.ofEntries_concat _ (path, (parseQueries text).1))

theorem ofHistory_concat_cleared (es : History) :
    ofHistory package encoding (es ++ [.cleared]) =
      { ofHistory package encoding es with current? := none } := by
  rw [ofHistory, History.loads_concat_cleared, History.current?_concat]
  rfl

end

end Store

namespace Session

variable {α : Type}

/-- The event of a step. A load that succeeds is one, with the text that its source has then. -/
def event? (x : Session) : Step α → Option Event
  | .request (.load (some path)) =>
    if (x.step (.request (.load (some path)) : Step α)).2.isOk then
      match x.store.source x.site.library path with
      | .ok text => some (.loaded path text)
      | .error _ => none
    else none
  | .request (.load none) | .request .clear => some .cleared
  | _ => none

/-- The events of a session, in order. -/
def history (x : Session) : List (Step α) → History
  | [] => []
  | s :: rest => (x.event? s).toList ++ (x.step s).1.history rest

/-- A load is an event exactly if it succeeds. -/
theorem isSome_event?_load (x : Session) (path : String) :
    (x.event? (.request (.load (some path)) : Step α)).isSome =
      (x.step (.request (.load (some path)) : Step α)).2.isOk := by
  cases hok : (x.step (.request (.load (some path)) : Step α)).2.isOk with
  | false => simp [event?, hok]
  | true =>
    obtain ⟨reply, hreply⟩ := Outcome.isOk_eq_true.1 hok
    obtain ⟨p, text, ⟨⟩, hsource, -⟩ | ⟨⟨⟨⟩⟩ | ⟨⟨⟩⟩, -⟩ | ⟨⟨⟨⟩⟩ | ⟨_, _, _, _, herror⟩, -⟩ :=
      x.store.perform_cases x.site (.load (some path) : Request α)
    · simp [event?, hok, hsource]
    · cases hreply.symm.trans herror

theorem event?_of_reads {x : Session} {r : Request α} (h : r.reads = true) :
    x.event? (.request r) = none := by
  cases r with
  | load _ | clear => cases h
  | _ => rfl

/-- A step adds its event to the history of the store. -/
theorem store_step {x : Session} {package : Option String} {encoding : String} {es : History}
    (h : x.store = .ofHistory package encoding es) (s : Step α) :
    (x.step s).1.store = .ofHistory package encoding (es ++ (x.event? s).toList) := by
  cases s with
  | change c =>
    rw [show x.event? (.change c : Step α) = none from rfl, Option.toList_none, List.append_nil]
    exact h
  | request r =>
    obtain ⟨path, text, rfl, hsource, hresult, hstore⟩ | ⟨hclears, -, hstore⟩ | ⟨hkeeps, hstore⟩ :=
      x.store.perform_cases x.site r
    · have hevent : x.event? (.request (.load (some path) : Request α)) =
          some (.loaded path text) := by
        have hok : (x.step (.request (.load (some path) : Request α))).2.isOk = true :=
          Outcome.isOk_eq_true.2 ⟨_, hresult⟩
        rw [event?, if_pos hok, hsource]
      rw [hevent, Option.toList_some, Store.ofHistory_concat_loaded, ← h]
      exact hstore
    · have hevent : x.event? (.request r) = some .cleared := by
        rcases hclears with rfl | rfl <;> rfl
      rw [hevent, Option.toList_some, Store.ofHistory_concat_cleared, ← h]
      exact hstore
    · have hevent : x.event? (.request r) = none := by
        rcases hkeeps with hreads | ⟨path, e, rfl, hsource, -⟩
        · exact event?_of_reads hreads
        · simp [event?, hsource]
      rw [hevent, Option.toList_none, List.append_nil, ← h]
      exact hstore

/-- The store after some steps is that of their history. -/
theorem store_after {x : Session} {package : Option String} {encoding : String} {es : History}
    (h : x.store = .ofHistory package encoding es) (steps : List (Step α)) :
    (x.after steps).store = .ofHistory package encoding (es ++ x.history steps) := by
  induction steps generalizing x es with
  | nil => rw [history, List.append_nil]; exact h
  | cons s steps ih =>
    rw [history, ← List.append_assoc]
    exact ih (store_step h s)

end Session

namespace Store

/-! ## What a store with a history answers -/

section

variable (package : Option String) (encoding : String) (es : History)

theorem find?_ofHistory (path : String) :
    (ofHistory package encoding es).loaded.find? path =
      (es.text? path).map fun text => (parseQueries text).1 := by
  rw [ofHistory, NameMap.find?_ofEntries, ← List.map_reverse,
    NameMap.lookup_map (fun text => (parseQueries text).1), History.text?]

theorem paths_ofHistory :
    (ofHistory package encoding es).paths = (es.loads.map (·.1)).eraseDups := by
  rw [paths, ofHistory, NameMap.names_ofEntries, List.map_map]
  rfl

theorem queries_ofHistory (path : String) :
    (ofHistory package encoding es).queries (some path) =
      match es.text? path with
      | some text => .ok (parseQueries text).1
      | none => .error (.query (.load path (some ("SQL file not loaded: " ++ path)) none)) := by
  have hfind := find?_ofHistory package encoding es path
  cases htext : es.text? path with
  | none => simp [queries, hfind, htext]
  | some text => simp [queries, hfind, htext]

theorem currentQueries?_ofHistory_of_none (h : es.current? = none) :
    (ofHistory package encoding es).currentQueries? = none := by
  simp [currentQueries?, ofHistory, h]

/-- The current path has the queries of its last text. -/
theorem currentQueries?_ofHistory {path : String} (h : es.current? = some path) :
    ∃ queries, (ofHistory package encoding es).currentQueries? = some (path, queries) ∧
      ∀ name, queries.find? name = es.query? path name := by
  obtain ⟨text, htext⟩ := History.exists_text_of_current? h
  have hfind := find?_ofHistory package encoding es path
  refine ⟨(parseQueries text).1, ?_, fun name => ?_⟩
  · have hcurrent : (ofHistory package encoding es).current? = some path := h
    simp [currentQueries?, hcurrent, hfind, htext]
  · rw [History.query?, htext, Option.bind_some]

theorem result_byName_ofHistory (name : String) :
    ((ofHistory package encoding es).byName name).result =
      match es.current? with
      | none => .error (.query (.noActiveFile none))
      | some path =>
        match es.query? path name with
        | some sql => .ok sql
        | none => .error (.query (.notFound name path)) := by
  cases h : es.current? with
  | none => exact result_byName_of_none (currentQueries?_ofHistory_of_none _ _ es h) name
  | some path =>
    obtain ⟨queries, hqueries, hfind⟩ := currentQueries?_ofHistory package encoding es h
    have hresult := result_byName hqueries name
    rw [hfind] at hresult
    exact hresult

theorem result_byNameOrText_ofHistory (text : String) :
    ((ofHistory package encoding es).byNameOrText text).result =
      match es.current? with
      | none => .error (.query (.noActiveFile none))
      | some path => .ok ((es.query? path text).getD text) := by
  cases h : es.current? with
  | none => exact result_byNameOrText_of_none (currentQueries?_ofHistory_of_none _ _ es h) text
  | some path =>
    obtain ⟨queries, hqueries, hfind⟩ := currentQueries?_ofHistory package encoding es h
    rw [result_byNameOrText hqueries, hfind]

theorem result_boundQuery_ofHistory (settings : Settings) (text : String) (params : Params)
    (strict : Option Bool) :
    ((ofHistory package encoding es).boundQuery settings text params strict).result =
      match es.current? with
      | none => .error (.query (.noActiveFile none))
      | some path =>
        (bindParameters ((es.query? path text).getD text) params
          (strict.getD settings.strictBinding)).result := by
  cases h : es.current? with
  | none =>
    exact result_boundQuery_of_none (currentQueries?_ofHistory_of_none _ _ es h) settings text
      params strict
  | some path =>
    obtain ⟨queries, hqueries, hfind⟩ := currentQueries?_ofHistory package encoding es h
    rw [result_boundQuery hqueries, hfind]

end

end Store

/-- **What a store answers is decided by its history.** After any steps of a session with a new
store, the current path is that of the last load that succeeded, unless it was cleared since, and the
paths are those that were loaded, in the order of their first loads. A path has the queries of the
text that its last load read. Names are looked up among those of the current path, a text that is no
name there stands for itself, and a lookup without a current path is refused. -/
theorem store_refines_history {α : Type} (site : Site) (package : Option String)
    (encoding : String) (steps : List (Step α)) :
    let x : Session := ⟨site, .empty package encoding⟩
    let es := x.history steps
    let s := (x.after steps).store
    s.current? = es.current? ∧ s.paths = (es.loads.map (·.1)).eraseDups ∧
      (∀ path, s.queries (some path) =
        match es.text? path with
        | some text => .ok (parseQueries text).1
        | none => .error (.query (.load path (some ("SQL file not loaded: " ++ path)) none))) ∧
      (∀ name, (s.byName name).result =
        match es.current? with
        | none => .error (.query (.noActiveFile none))
        | some path =>
          match es.query? path name with
          | some sql => .ok sql
          | none => .error (.query (.notFound name path))) ∧
      (∀ text, (s.byNameOrText text).result =
        match es.current? with
        | none => .error (.query (.noActiveFile none))
        | some path => .ok ((es.query? path text).getD text)) ∧
      (∀ settings text params strict, (s.boundQuery settings text params strict).result =
        match es.current? with
        | none => .error (.query (.noActiveFile none))
        | some path =>
          (bindParameters ((es.query? path text).getD text) params
            (strict.getD settings.strictBinding)).result) ∧
      ∀ settings text params strict note,
        (s.boundQuery settings text params strict).result = .error (.query (.noActiveFile note)) ↔
          s.current? = none ∧ note = none := by
  intro x es s
  have hstart : x.store = .ofHistory package encoding [] :=
    (Store.ofHistory_nil package encoding).symm
  have hs : s = .ofHistory package encoding es := Session.store_after hstart steps
  have hcurrent : s.current? = es.current? := by rw [hs]; rfl
  refine ⟨hcurrent, ?_, ?_, ?_, ?_, ?_, ?_⟩
  · rw [hs, Store.paths_ofHistory]
  · rw [hs]; exact Store.queries_ofHistory package encoding es
  · rw [hs]; exact Store.result_byName_ofHistory package encoding es
  · rw [hs]; exact Store.result_byNameOrText_ofHistory package encoding es
  · rw [hs]; exact Store.result_boundQuery_ofHistory package encoding es
  · intro settings text params strict note
    rw [hcurrent, hs, Store.result_boundQuery_ofHistory]
    cases es.current? with
    | none => simp [eq_comm]
    | some path => simp [bindParameters_ne_noActiveFile]

end QueryBook
