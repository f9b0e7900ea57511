import QueryBook.Source.Fault

/-!
# Notices

What the library reports while it works. A notice is a fact; its severity, the channel it
belongs to and its wording follow from it.
-/

namespace QueryBook

/-- How serious a notice is. -/
inductive Severity where
  | debug
  | info
  | warning
  | error
  deriving DecidableEq, Repr

/-- The part of the library that a notice comes from. -/
inductive Channel where
  | store
  | binder
  | editor
  | sources
  deriving DecidableEq, Repr

/-- The name that the records of a channel carry. -/
def Channel.name : Channel → String
  | store => "queries.query_store"
  | binder => "queries.binder"
  | editor => "queries.statement_editor"
  | sources => "utils.resource_utils"

/-- A fact reported by the library. -/
inductive Notice where
  | packageUnavailable (package : String) (fault : PackageFault)
  | readingResource (name package : String)
  | readingFile (name : String)
  | duplicateQuery (name : String)
  | emptyQuery (name : String)
  | loadFailed (path : String)
  | loaded (count : Nat) (path : String)
  | currentCleared
  | lookupBeforeLoad
  | queryMissing (name path : String)
  | takenAsText
  | mismatch (unused unresolved : List String)
  | bound (matched total : Nat)
  | unparsable
  | notASelect
  | columnsReplaced
  | conditionsReplaced
  deriving DecidableEq, Repr

namespace Notice

def severity : Notice → Severity
  | packageUnavailable .. | readingResource .. | readingFile _ | takenAsText | bound .. => .debug
  | loaded .. | currentCleared | columnsReplaced | conditionsReplaced => .info
  | duplicateQuery _ | emptyQuery _ => .warning
  | loadFailed _ | lookupBeforeLoad | queryMissing .. | mismatch .. | unparsable | notASelect =>
    .error

def channel : Notice → Channel
  | packageUnavailable .. | readingResource .. | readingFile _ => .sources
  | mismatch .. | bound .. => .binder
  | unparsable | notASelect | columnsReplaced | conditionsReplaced => .editor
  | _ => .store

/-- The wording of a notice. -/
def message : Notice → String
  | packageUnavailable package fault =>
    "Resource package '" ++ package ++ "' unavailable: " ++ fault.message
  | readingResource name package =>
    "Reading '" ++ name ++ "' from package resources of '" ++ package ++ "'"
  | readingFile name => "Reading '" ++ name ++ "' from filesystem"
  | duplicateQuery name => "Duplicate query name '" ++ name ++ "', keeping the last definition"
  | emptyQuery name => "Query '" ++ name ++ "' has an empty body"
  | loadFailed path => "Failed to read SQL file: " ++ path
  | loaded count path =>
    "Successfully loaded and cached " ++ toString count ++ " queries from file: " ++ path
  | currentCleared => "Default SQL file path cleared"
  | lookupBeforeLoad => "Query lookup attempted before any SQL file was loaded"
  | queryMissing name path => "Query with name '" ++ name ++ "' not found in file: " ++ path
  | takenAsText => "Not a known query name, using input as SQL text"
  | mismatch unused unresolved =>
    "Strict binding failed: unused=" ++ Text.quotedList unused ++
      ", unresolved=" ++ Text.quotedList unresolved
  | bound matched total => "Bound " ++ toString matched ++ " of " ++ toString total ++ " parameters"
  | unparsable => "Failed to parse SQL query"
  | notASelect => "Query is not a SELECT statement"
  | columnsReplaced => "Successfully modified SELECT columns"
  | conditionsReplaced => "Successfully modified WHERE clause"

end Notice

end QueryBook
