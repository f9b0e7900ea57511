import QueryBook.Store

/-!
# Sessions

A session is a store in use while files come and go. `Session.run` goes through the steps of a
session: requests to the store, which see the files as they are at that moment, and changes of
the files, which the store does not notice. The values of text clauses are of any type `α`.
-/

namespace QueryBook

/-- What a store can be asked. -/
inductive Request (α : Type) where
  | load (path : Option String)
  | clear
  | queries (path : Option String)
  | byName (name : String)
  | byNameOrText (text : String)
  | boundQuery (text : String) (params : Params) (strict : Option Bool)
  | clause (text : String) (params : List (String × α))
  | withColumns (name : String) (columns : List String)
  | withConditions (name : String) (conditions : List (String × Value))

/-- What a store answers. -/
inductive Reply (α : Type) where
  | done
  | text (s : String)
  | queries (qs : QuerySet)
  | clause (c : TextClause α)

/-- How files change. -/
inductive FileChange where
  | write (path : Path) (content : List UInt8)
  | makeDirectory (path : Path)
  | remove (path : Path)

/-- One step of a session. -/
inductive Step (α : Type) where
  | request (r : Request α)
  | change (c : FileChange)

/-- The files after a change. -/
def FileChange.apply (t : FileTree) : FileChange → FileTree
  | write path content => t.write path content
  | makeDirectory path => t.addDirectory path
  | remove path => t.remove path

namespace Outcome

/-- The same outcome with another result. -/
def mapResult {α β : Type} (f : α → β) (x : Outcome α) : Outcome β :=
  ⟨x.notices, x.result.map f⟩

end Outcome

/-- The store after a request, and its answer. -/
def Store.perform {α : Type} (site : Site) (s : Store) : Request α → Store × Outcome (Reply α)
  | .load path =>
    let (s, answer) := s.load site.library path
    (s, answer.mapResult fun _ => .done)
  | .clear =>
    let (s, answer) := s.clear
    (s, answer.mapResult fun _ => .done)
  | .queries path => (s, (Outcome.ofExcept (s.queries path)).mapResult .queries)
  | .byName name => (s, (s.byName name).mapResult .text)
  | .byNameOrText text => (s, (s.byNameOrText text).mapResult .text)
  | .boundQuery text params strict =>
    (s, (s.boundQuery site.settings text params strict).mapResult .text)
  | .clause text params => (s, (s.clause text params).mapResult .clause)
  | .withColumns name columns => (s, (s.withColumns site.settings name columns).mapResult .text)
  | .withConditions name conditions =>
    (s, (s.withConditions site.settings name conditions).mapResult .text)

/-- A store and what it works in. -/
structure Session where
  site : Site
  store : Store

namespace Session

/-- The session after a step, and the answer. -/
def step {α : Type} (x : Session) : Step α → Session × Outcome (Reply α)
  | .request r =>
    let (store, answer) := x.store.perform x.site r
    ({ x with store }, answer)
  | .change c =>
    let files := c.apply x.site.library.files
    ({ x with site.library.files := files }, pure .done)

/-- The session after each of some steps, with the answers. -/
def run {α : Type} (x : Session) : List (Step α) → List (Session × Outcome (Reply α))
  | [] => []
  | s :: rest =>
    let r := x.step s
    r :: run r.1 rest

/-- The session after some steps. -/
def after {α : Type} (x : Session) (steps : List (Step α)) : Session :=
  steps.foldl (fun x s => (x.step s).1) x

end Session

end QueryBook
