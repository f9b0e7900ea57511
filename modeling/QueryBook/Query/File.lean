import QueryBook.NameMap
import QueryBook.Notice
import QueryBook.Query.Normalize
import QueryBook.Text.Split

/-!
# Query files

A query file gives names to queries. A marker line holds `--`, gaps, `name:`, gaps, a name
without blanks, and gaps; the query is what follows it, up to the next marker line. Lines end
at a line feed. A carriage return may end a marker line: before a line feed it belongs to the
line end, and on the last line it still ends the query before it but begins none.

`QueryFile.read` goes through the lines once and keeps the query that is being read.
-/

namespace QueryBook

/-- Queries by name, in order of first definition. -/
abbrev QuerySet := NameMap String

namespace QueryFile

open Text

/-- What follows a word that the text begins with. -/
def after? (word cs : List Char) : Option (List Char) :=
  if word.isPrefixOf cs then some (cs.drop word.length) else none

/-- The name on a marker line and what follows the gaps behind it. -/
def marker? (line : List Char) : Option (List Char × List Char) := do
  let rest ← after? ['-', '-'] line
  let rest ← after? "name:".toList (rest.dropWhile isGap)
  let rest := rest.dropWhile isGap
  let name := rest.takeWhile fun c => !isBlank c
  if name.isEmpty then none
  else some (name, (rest.dropWhile fun c => !isBlank c).dropWhile isGap)

/-- Whether a line ends the query before it. -/
def isTerminator (line : List Char) : Bool :=
  match marker? line with
  | some (_, []) | some (_, ['\r']) => true
  | _ => false

/-- The name of the query that begins behind a line, if one does. -/
def opened? (line : List Char) (isLast : Bool) : Option (List Char) :=
  match marker? line with
  | some (name, []) => some name
  | some (name, ['\r']) => if isLast then none else some name
  | _ => none

/-- What has been read of a file: the complete queries, the notices about them, and the name
and lines of the query that is being read, the last line first. -/
structure Reader where
  queries : QuerySet
  notices : List Notice
  current? : Option (List Char × List (List Char))

namespace Reader

/-- Nothing has been read. -/
def start : Reader :=
  ⟨.empty, [], none⟩

/-- Ends the query that is being read. -/
def close (r : Reader) : Reader :=
  match r.current? with
  | none => r
  | some (name, body) =>
    let name := String.ofList name
    let sql := Normalize.normal (join '\n' body.reverse)
    let duplicate := if r.queries.contains name then [Notice.duplicateQuery name] else []
    let empty := if sql.isEmpty then [Notice.emptyQuery name] else []
    ⟨r.queries.insert name (String.ofList sql), r.notices ++ duplicate ++ empty, none⟩

/-- Reads one line. -/
def step (r : Reader) (line : List Char) (isLast : Bool) : Reader :=
  if isTerminator line then
    { r.close with current? := (opened? line isLast).map fun name => (name, []) }
  else { r with current? := r.current?.map fun c => (c.1, line :: c.2) }

/-- Reads all lines and ends the last query. -/
def run (r : Reader) : List (List Char) → Reader
  | [] => r.close
  | line :: rest => run (r.step line rest.isEmpty) rest

end Reader

/-- The queries of a file and the notices about them. -/
def read (content : List Char) : QuerySet × List Notice :=
  let r := Reader.start.run (split '\n' content)
  (r.queries, r.notices)

end QueryFile

/-- The queries that a file defines, with a notice for each repeated name and each empty
query. -/
def parseQueries (content : String) : QuerySet × List Notice :=
  QueryFile.read content.toList

end QueryBook
