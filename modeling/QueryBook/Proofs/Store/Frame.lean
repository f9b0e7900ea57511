import QueryBook.Session

/-!
# What requests leave unchanged

Reading a source is the only step of a load that can fail, and it comes before every change
(`result_loadFile`, `store_loadFile`). So a request that fails leaves the store as it was, and one
that succeeds changes no more than it names: clearing only the current path, and a load the current
path and the queries of one path (`perform_frame`). Over a whole session the load order only grows
at its end (`paths_prefix_after`), and the queries of a path that is not loaded in it stay the same
(`find?_after`).
-/

namespace QueryBook

/-- Whether a request neither loads nor clears. -/
def Request.reads {α : Type} : Request α → Bool
  | load _ | clear => false
  | _ => true

namespace Store

/-- The text of the source of a path, as a store reads it. -/
def source (lib : Library) (s : Store) (path : String) : Except Failure String :=
  (readSource lib (s.package.getD "") s.encoding path).result

/-- How a load reports that its source cannot be read. -/
def loadFailure (path : String) : Failure → Failure
  | .source e => .query (.load path none (some e))
  | e => e

/-! ## Loading a file -/

theorem result_loadFile (lib : Library) (s : Store) (path : String) :
    (s.loadFile lib path).2.result =
      match s.source lib path with
      | .ok _ => .ok ()
      | .error e => .error (loadFailure path e) := by
  rw [loadFile, source]
  split
  · next h => simp [h]
  · next e h => simp [h, loadFailure]
  · next e hsource h =>
    rw [h]
    cases e with
    | source e => exact absurd rfl (hsource e)
    | _ => rfl

theorem store_loadFile (lib : Library) (s : Store) (path : String) :
    (s.loadFile lib path).1 =
      match s.source lib path with
      | .ok text => s.insert path (parseQueries text).1
      | .error _ => s := by
  rw [loadFile, source]
  split <;> next h => simp [h]

/-- One store is another after a load of a path: the path is current and has queries, a new path is
the last one, and everything else is the same. -/
structure LoadedOnly (path : String) (s s' : Store) : Prop where
  current_eq : s'.current? = some path
  contains : s'.loaded.contains path = true
  others : ∀ p, p ≠ path → s'.loaded.find? p = s.loaded.find? p
  paths_eq : s'.paths = if path ∈ s.paths then s.paths else s.paths ++ [path]
  package_eq : s'.package = s.package
  encoding_eq : s'.encoding = s.encoding

theorem loadedOnly_insert (s : Store) (path : String) (queries : QuerySet) :
    LoadedOnly path s (s.insert path queries) where
  current_eq := rfl
  contains := by simp [insert, NameMap.contains, NameMap.find?_insert]
  others p hp := by simp [insert, NameMap.find?_insert, hp]
  paths_eq := NameMap.names_insert s.loaded path queries
  package_eq := rfl
  encoding_eq := rfl

/-! ## All requests -/

section

variable {α : Type} (site : Site) (s : Store)

/-- What a request does: a load reads its source and puts the queries in, clearing leaves no current
path, and nothing happens to the store if a request only reads or a source cannot be read. -/
theorem perform_cases (r : Request α) :
    (∃ path text, r = .load (some path) ∧ s.source site.library path = .ok text ∧
        (s.perform site r).2.result = .ok .done ∧
        (s.perform site r).1 = s.insert path (parseQueries text).1) ∨
      ((r = .clear ∨ r = .load none) ∧ (s.perform site r).2.result = .ok .done ∧
        (s.perform site r).1 = { s with current? := none }) ∨
      (r.reads = true ∨ ∃ path e, r = .load (some path) ∧ s.source site.library path = .error e ∧
          (s.perform site r).2.result = .error (loadFailure path e)) ∧
        (s.perform site r).1 = s := by
  cases r with
  | load path =>
    cases path with
    | none => exact .inr (.inl ⟨.inr rfl, rfl, rfl⟩)
    | some path =>
      have hresult : (s.perform site (.load (some path) : Request α)).2.result =
          (s.loadFile site.library path).2.result.map fun _ => .done := rfl
      have hstore : (s.perform site (.load (some path) : Request α)).1 =
          (s.loadFile site.library path).1 := rfl
      rw [hresult, hstore, result_loadFile, store_loadFile]
      cases hsource : s.source site.library path with
      | ok text => exact .inl ⟨path, text, rfl, hsource, rfl, rfl⟩
      | error e => exact .inr (.inr ⟨.inr ⟨path, e, rfl, hsource, rfl⟩, rfl⟩)
  | clear => exact .inr (.inl ⟨.inl rfl, rfl, rfl⟩)
  | _ => exact .inr (.inr ⟨.inl rfl, rfl⟩)

/-- **A request that fails leaves the store as it was, and so does one that only reads.** Clearing
changes only the current path, and a load that succeeds only that and the queries of its path. -/
theorem perform_frame (r : Request α) :
    (∀ e, (s.perform site r).2.result = .error e → (s.perform site r).1 = s) ∧
      (r.reads = true → (s.perform site r).1 = s) ∧
      (r = .clear ∨ r = .load none → (s.perform site r).1 = { s with current? := none }) ∧
      ∀ path reply, r = .load (some path) → (s.perform site r).2.result = .ok reply →
        LoadedOnly path s (s.perform site r).1 := by
  obtain ⟨path, text, rfl, -, hresult, hstore⟩ | ⟨hclears, hresult, hstore⟩ | ⟨hkeeps, hstore⟩ :=
    perform_cases site s r
  · rw [hresult, hstore]
    refine ⟨nofun, nofun, by rintro (⟨⟨⟩⟩ | ⟨⟨⟩⟩), ?_⟩
    rintro _ _ ⟨⟩ -
    exact loadedOnly_insert s path _
  · rw [hresult, hstore]
    refine ⟨nofun, ?_, fun _ => rfl, ?_⟩
    · rcases hclears with rfl | rfl <;> exact nofun
    · rintro path _ rfl
      rcases hclears with ⟨⟨⟩⟩ | ⟨⟨⟩⟩
  · refine ⟨fun _ _ => hstore, fun _ => hstore, ?_, ?_⟩
    · rcases hkeeps with hreads | ⟨path, e, rfl, -⟩
      · rintro (rfl | rfl) <;> cases hreads
      · rintro (⟨⟨⟩⟩ | ⟨⟨⟩⟩)
    · rintro path _ rfl hdone
      rcases hkeeps with hreads | ⟨_, _, -, -, hresult⟩
      · cases hreads
      · rw [hresult] at hdone
        cases hdone

end

/-- A place with one file. -/
def oneFile : Site where
  settings := .ofEnvironment []
  library := ⟨⟨[], [], .ofHome []⟩, ⟨[(["a.sql"], .file [])], []⟩⟩

theorem perform_frame_oneFile :
    let s := (empty none "utf-8").insert "c.sql" .empty
    let found : Request Unit := .load (some "a.sql")
    let missing : Request Unit := .load (some "b.sql")
    (s.perform oneFile missing).2.isOk = false ∧ (s.perform oneFile missing).1 = s ∧
      (s.perform oneFile found).2.isOk = true ∧
      LoadedOnly "a.sql" s (s.perform oneFile found).1 := by
  intro s found missing
  have hmissing : (s.perform oneFile missing).2.isOk = false := by decide
  have hfound : (s.perform oneFile found).2.isOk = true := by decide
  obtain ⟨e, herror⟩ := Outcome.isOk_eq_false.1 hmissing
  obtain ⟨reply, hreply⟩ := Outcome.isOk_eq_true.1 hfound
  exact ⟨hmissing, (perform_frame oneFile s missing).1 e herror, hfound,
    (perform_frame oneFile s found).2.2.2 "a.sql" reply rfl hreply⟩

end Store

namespace Session

variable {α : Type}

/-- A step changes the store only by a load of some path or by clearing the current one. -/
theorem store_step_cases (x : Session) (s : Step α) :
    (x.step s).1.store = x.store ∨ (x.step s).1.store = { x.store with current? := none } ∨
      ∃ path, s = .request (.load (some path)) ∧
        Store.LoadedOnly path x.store (x.step s).1.store := by
  cases s with
  | change c => exact .inl rfl
  | request r =>
    obtain ⟨path, text, rfl, -, -, hstore⟩ | ⟨-, -, hstore⟩ | ⟨-, hstore⟩ :=
      x.store.perform_cases x.site r
    · have hinsert := Store.loadedOnly_insert x.store path (parseQueries text).1
      rw [← hstore] at hinsert
      exact .inr (.inr ⟨path, rfl, hinsert⟩)
    · exact .inr (.inl hstore)
    · exact .inl hstore

/-- The load order only grows, at its end. -/
theorem paths_prefix_after (x : Session) (steps : List (Step α)) :
    x.store.paths <+: (x.after steps).store.paths := by
  induction steps generalizing x with
  | nil => exact List.prefix_refl _
  | cons s steps ih =>
    refine List.IsPrefix.trans ?_ (ih (x.step s).1)
    obtain h | h | ⟨path, -, h⟩ := store_step_cases x s
    · exact h ▸ List.prefix_refl _
    · exact h ▸ List.prefix_refl _
    · rw [h.paths_eq]
      split
      · exact List.prefix_refl _
      · exact List.prefix_append _ _

/-- A path that is not loaded keeps its queries. -/
theorem find?_after {path : String} {steps : List (Step α)}
    (h : ∀ s ∈ steps, s ≠ .request (.load (some path))) (x : Session) :
    (x.after steps).store.loaded.find? path = x.store.loaded.find? path := by
  induction steps generalizing x with
  | nil => rfl
  | cons s steps ih =>
    refine (ih (fun t ht => h t (List.mem_cons_of_mem _ ht)) (x.step s).1).trans ?_
    obtain hstore | hstore | ⟨p, rfl, hstore⟩ := store_step_cases x s
    · rw [hstore]
    · rw [hstore]
    · refine hstore.others path ?_
      rintro rfl
      exact h _ List.mem_cons_self rfl

end Session

end QueryBook
