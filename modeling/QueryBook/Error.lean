import QueryBook.Source.Fault
import QueryBook.Sql.Dialect
import QueryBook.Value

/-!
# Errors

`QueryError` is the family of errors about named queries; `Failure` adds the errors that
other parts raise and that pass through unchanged. Each constructor is a cause, and the
wording of a cause is in `message`.
-/

namespace QueryBook

/-- The errors of loading, looking up, binding and editing named queries. -/
inductive QueryError where
  /-- An error of the family without a cause of its own. -/
  | general
  /-- A query file cannot be read, or was never loaded; a nonempty note replaces the usual
  wording. -/
  | load (path : String) (note : Option String) (cause : Option SourceError)
  /-- A lookup before any file was loaded. -/
  | noActiveFile (note : Option String)
  /-- The current file has no query of that name. -/
  | notFound (name path : String)
  /-- A text is not valid SQL. -/
  | parse
  /-- A statement is not a plain SELECT. -/
  | notASelect (sql : Option String)
  /-- Strict binding found parameters without placeholder or placeholders without parameter. -/
  | binding (unused unresolved : List String)
  deriving DecidableEq, Repr

/-- The wider classes of error that a handler may ask for. -/
inductive ErrorClass where
  | namedQuery
  | runtime
  | lookup
  | value
  deriving DecidableEq, Repr

namespace QueryError

/-- A binding error; the unused names are reported in order. -/
def ofMismatch (unused unresolved : List String) : QueryError :=
  binding (unused.mergeSort fun a b => decide (a ≤ b)) unresolved

/-- The wider classes that an error belongs to. -/
def classes : QueryError → List ErrorClass
  | general | load .. => [.namedQuery]
  | noActiveFile _ => [.namedQuery, .runtime]
  | notFound .. => [.namedQuery, .lookup]
  | parse | notASelect _ | binding .. => [.namedQuery, .value]

/-- One part of the wording of a binding error, if there is something to report. -/
def problem (title : String) (names : List String) : List String :=
  if names.isEmpty then [] else [title ++ ": " ++ ", ".intercalate names]

/-- The wording of an error. -/
def message : QueryError → String
  | general => ""
  | load path note _ =>
    match note with
    | some text => if text.isEmpty then "Failed to read SQL file: " ++ path else text
    | none => "Failed to read SQL file: " ++ path
  | noActiveFile note => note.getD "Default SQL file path not set. Call load() first."
  | notFound name path => "Query with name '" ++ name ++ "' not found in file: " ++ path
  | parse => ""
  | notASelect sql =>
    match sql with
    | some text => "Query is not a SELECT statement: " ++ text
    | none => ""
  | binding unused unresolved =>
    "Parameter binding failed (" ++ "; ".intercalate
      (problem "unused parameters" unused ++ problem "unresolved placeholders" unresolved) ++ ")"

end QueryError

/-- Every way an operation of the library can fail. -/
inductive Failure where
  | query (e : QueryError)
  /-- A source that cannot be read. -/
  | source (e : SourceError)
  /-- A parameter value without a literal form. -/
  | unrenderable (k : Kind)
  /-- A condition value without a literal form. -/
  | incomparable (k : Kind)
  | unknownDialect (name : String)
  /-- A setting that dialects do not have. -/
  | unknownSetting (name : String)
  | unknownEncoding (name : String)
  /-- A UTF-16 text without a byte order mark. -/
  | noByteOrderMark
  /-- A path with a NUL character. -/
  | nulInPath
  /-- A parameter that a text clause has no bind name for. -/
  | undefinedParameter (name : String)
  /-- A parameter of a text clause whose name is taken by the clause itself. -/
  | reservedParameter (owner name : String)
  /-- A column name with a quote that is never closed. -/
  | unclosedColumn
  deriving DecidableEq, Repr

/-- The wording for an unknown name, with the closest of those there are. -/
def Failure.unknown (kind name : String) (choices : List String) : String :=
  "Unknown " ++ kind ++ " '" ++ name ++ "'." ++
    match Text.closest? name choices with
    | some choice => " Did you mean " ++ choice ++ "?"
    | none => ""

/-- The wording of a failure. -/
def Failure.message : Failure → String
  | query e => e.message
  | source e => e.message
  | unrenderable k => "Cannot render " ++ k.label ++ " as a SQL literal"
  | incomparable k => "Cannot compare a column to a " ++ k.label ++ " value"
  | unknownDialect name => unknown "dialect" name Dialect.names
  | unknownSetting name => unknown "setting" name Dialect.settings
  | unknownEncoding name => "unknown encoding: " ++ name
  | noByteOrderMark => "UTF-16 stream does not start with BOM"
  | nulInPath => "embedded null byte"
  | undefinedParameter name =>
    "This text() construct doesn't define a bound parameter named " ++ Text.quoted name
  | reservedParameter owner name =>
    owner ++ "() got multiple values for argument " ++ Text.quoted name
  | unclosedColumn => "Missing closing quote"

end QueryBook
