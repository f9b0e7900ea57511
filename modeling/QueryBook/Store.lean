import QueryBook.Binding.Bind
import QueryBook.Binding.Clause
import QueryBook.NameMap
import QueryBook.Query.File
import QueryBook.Settings
import QueryBook.Source.Read
import QueryBook.Sql.Edit

/-!
# The query store

A store keeps the queries of every file loaded into it, by the path they were loaded under, and
remembers one of the paths as the current one. Loading a path again replaces its queries as a
whole. Names are looked up among the queries of the current path. Only loading and clearing
change a store, and a load that fails changes nothing.
-/

namespace QueryBook

/-- The queries of loaded files. -/
structure Store where
  /-- The package searched before the file system, if any is. -/
  package : Option String
  encoding : String
  /-- The queries of each path, in the order of the first loads. -/
  loaded : NameMap QuerySet
  /-- The path that names are looked up under, if there is one. -/
  current? : Option String

/-- What a store works in: the settings, and what sources are read from. -/
structure Site where
  settings : Settings
  library : Library

namespace Store

/-- A store into which nothing was loaded. -/
def empty (package : Option String) (encoding : String) : Store :=
  ⟨package, encoding, .empty, none⟩

/-- The paths with queries, in the order of their first loads. -/
def paths (s : Store) : List String :=
  s.loaded.names

/-- The store with the queries of a file, which becomes the current one. -/
def insert (s : Store) (path : String) (queries : QuerySet) : Store :=
  { s with loaded := s.loaded.insert path queries, current? := some path }

/-- The store after a file was loaded into it. A source that cannot be read is reported as a
load error of its path; other failures pass through. -/
def loadFile (lib : Library) (s : Store) (path : String) : Store × Outcome Unit :=
  let source := readSource lib (s.package.getD "") s.encoding path
  match source.result with
  | .ok text =>
    let (queries, notices) := parseQueries text
    (s.insert path queries,
      ⟨source.notices ++ notices ++ [.loaded queries.size path], .ok ()⟩)
  | .error (.source e) =>
    (s, ⟨source.notices ++ [.loadFailed path], .error (.query (.load path none (some e)))⟩)
  | .error e => (s, ⟨source.notices, .error e⟩)

/-- The store without a current path. -/
def clear (s : Store) : Store × Outcome Unit :=
  ({ s with current? := none }, .report .currentCleared)

/-- The store after a load; loading nothing clears the current path. -/
def load (lib : Library) (s : Store) : Option String → Store × Outcome Unit
  | none => s.clear
  | some path => s.loadFile lib path

/-- The queries of a path, or of the current one. -/
def queries (s : Store) (path : Option String) : Except Failure QuerySet :=
  match path <|> s.current? with
  | none => .error (.query (.noActiveFile none))
  | some p =>
    match s.loaded.find? p with
    | some qs => .ok qs
    | none => .error (.query (.load p (some ("SQL file not loaded: " ++ p)) none))

/-- The current path and its queries. -/
def currentQueries? (s : Store) : Option (String × QuerySet) := do
  let path ← s.current?
  let queries ← s.loaded.find? path
  return (path, queries)

/-- The query of a name. -/
def byName (s : Store) (name : String) : Outcome String :=
  match s.currentQueries? with
  | none => do
    .report .lookupBeforeLoad
    .raise (.noActiveFile none)
  | some (path, queries) =>
    match queries.find? name with
    | some sql => pure sql
    | none => do
      .report (.queryMissing name path)
      .raise (.notFound name path)

/-- The query of a name, or the text itself if it names none. -/
def byNameOrText (s : Store) (text : String) : Outcome String :=
  let found := s.byName text
  match found.result with
  | .error (.query (.notFound ..)) => ⟨found.notices ++ [.takenAsText], .ok text⟩
  | _ => found

/-- The query of a name, or the text itself, with its parameters as literals. -/
def boundQuery (settings : Settings) (s : Store) (text : String) (params : Params)
    (strict : Option Bool) : Outcome String := do
  let sql ← s.byNameOrText text
  bindParameters sql params (strict.getD settings.strictBinding)

/-- The query of a name, or the text itself, with its parameters left to a driver. -/
def clause {α : Type} (s : Store) (text : String) (params : List (String × α)) :
    Outcome (TextClause α) := do
  let sql ← s.byNameOrText text
  .ofExcept (bindClause sql params)

/-- The query of a name with other columns. -/
def withColumns (settings : Settings) (s : Store) (name : String) (columns : List String) :
    Outcome String := do
  let sql ← s.byName name
  replaceColumns settings.dialect sql columns

/-- The query of a name with another condition. -/
def withConditions (settings : Settings) (s : Store) (name : String)
    (conditions : List (String × Value)) : Outcome String := do
  let sql ← s.byName name
  replaceConditions settings.dialect sql conditions

/-- A new store, into which the default file of the settings is loaded, if there is one. -/
def configured (site : Site) : Store × Outcome Unit :=
  let s := empty site.settings.package site.settings.encoding
  match site.settings.defaultFile with
  | some path => s.loadFile site.library path
  | none => (s, pure ())

end Store

end QueryBook
