import QueryBook.Text.Blank
import QueryBook.Text.Delimited
import QueryBook.Text.Similar

/-!
# Dialects

The dialects of SQL differ here in how names, strings and comments are delimited, and in how
placeholders are written. A name may be written between several pairs of quotes and is printed
between one of them. A string is printed between single quotes. Where the backslash escapes, it
is read together with the character behind it.

A dialect is asked for by its name, behind which settings may follow, each behind a comma.
-/

namespace QueryBook

/-- How a dialect writes what it has in common with others. -/
structure Dialect where
  /-- The quotes that names are printed between. -/
  nameQuotes : Char × Char := ('"', '"')
  /-- Further quotes that names are read between. -/
  otherNameQuotes : List (Char × Char) := []
  /-- The quotes that strings are read between. -/
  textQuotes : List Char := ['\'']
  /-- The characters that the backslash stands for together with another one; where there are
  none, the backslash is a character like any other. -/
  escapes : List (Char × Char) := []
  /-- Letters that mark a string between single quotes, each as it is printed. -/
  textMarks : List (Char × Char) := [('n', 'N'), ('N', 'N')]
  /-- Whether a string can stand between two equal tags in dollar signs. -/
  dollarTexts : Bool := false
  /-- Whether a number sign begins a comment. -/
  hashComments : Bool := false
  /-- Whether a comment can hold another one. -/
  nestedComments : Bool := true
  /-- Whether a name can begin with a digit. -/
  digitNames : Bool := false
  /-- What stands around the name of a placeholder. -/
  placeholder : String × String := (":", "")
  /-- A placeholder without a name. -/
  anonymous : String := "?"
  /-- Whether locks are printed. -/
  locks : Bool := false
  /-- Whether a null is greater than all values; else it is less than all. -/
  nullsLarge : Bool := false
  /-- Whether a string can be an alias without `AS`. -/
  textAliases : Bool := false
  /-- Whether a limit stands behind the first word of a select. -/
  leadingLimit : Bool := false
  /-- Whether the table that a select puts its rows into is one of its clauses. -/
  intoClause : Bool := false
  /-- Whether the elements of an array stand between brackets. -/
  arrayBrackets : Bool := false
  /-- Whether signs join conditions: `&&` like `AND`, `||` like `OR`. -/
  conditionSigns : Bool := false
  /-- Whether the constants of truth are numbers. -/
  bitConstants : Bool := false
  deriving Repr

namespace Dialect

/-- Names between double quotes, strings between single ones. -/
def generic : Dialect := {}

/-- Placeholders are written by the percent sign. -/
def postgres : Dialect where
  textMarks := [('n', 'N'), ('N', 'N'), ('e', 'e'), ('E', 'e'), ('x', 'x'), ('X', 'x'),
    ('b', 'b'), ('B', 'b')]
  dollarTexts := true
  placeholder := ("%(", ")s")
  anonymous := "%s"
  locks := true
  nullsLarge := true
  intoClause := true
  arrayBrackets := true

/-- Names between backquotes, strings between either quotes, with escapes. -/
def mysql : Dialect where
  nameQuotes := ('`', '`')
  textQuotes := ['\'', '"']
  textMarks := [('n', 'N'), ('N', 'N'), ('x', 'x'), ('X', 'x'), ('b', 'b'), ('B', 'b')]
  escapes := [('0', '\x00'), ('b', '\x08'), ('n', '\n'), ('r', '\r'), ('t', '\t'),
    ('Z', '\x1a'), ('\\', '\\')]
  hashComments := true
  nestedComments := false
  digitNames := true
  locks := true
  textAliases := true
  conditionSigns := true

/-- Names between brackets or double quotes. -/
def tsql : Dialect where
  nameQuotes := ('[', ']')
  otherNameQuotes := [('"', '"')]
  textAliases := true
  leadingLimit := true
  intoClause := true
  bitConstants := true

/-- The dialects that differ from the generic one, and the generic one, which has no name. -/
def described : List (String × Dialect) :=
  [("", generic), ("postgres", postgres), ("mysql", mysql), ("tsql", tsql)]

/-- The names of dialects; one without a description is taken for the generic dialect. -/
def names : List String :=
  ["athena", "bigquery", "clickhouse", "databricks", "doris", "dremio", "drill", "druid",
   "duckdb", "dune", "exasol", "fabric", "hive", "materialize", "mysql", "oracle", "postgres",
   "presto", "prql", "redshift", "risingwave", "singlestore", "snowflake", "solr", "spark",
   "spark2", "sqlite", "starrocks", "tableau", "teradata", "trino", "tsql"]

/-- The dialect of a name. -/
def named? (name : String) : Option Dialect :=
  match described.lookup name with
  | some d => some d
  | none => if names.contains name then some generic else none

/-- The settings of dialects. -/
def settings : List String := ["normalization_strategy", "version"]

/-- Why there is no dialect of a description. -/
inductive Fault where
  | unknownName (name : String)
  | unknownSetting (name : String)
  deriving DecidableEq, Repr

/-- The dialect of a description: its name, and settings, which change nothing here. Blanks
around the name do not count. -/
def ofDescription (description : String) : Except Fault Dialect :=
  match Text.split ',' description.toList with
  | [] => .ok generic
  | name :: given =>
    match named? (String.ofList (Text.trim name)) with
    | none => .error (.unknownName (String.ofList name))
    | some d =>
      let names := given.map fun s => String.ofList (Text.trim (s.takeWhile (· ≠ '=')))
      match names.find? fun n => !settings.contains n with
      | some n => .error (.unknownSetting n)
      | none => .ok d

/-- The closing quote of a name that begins with the character, if a name can. -/
def closingNameQuote? (d : Dialect) (c : Char) : Option Char :=
  (d.nameQuotes :: d.otherNameQuotes).lookup c

/-- The written form of a character inside a string. -/
def escapeChar (d : Dialect) (c : Char) : List Char :=
  match d.escapes.find? fun e => e.2 == c with
  | some e => ['\\', e.1]
  | none => [c]

/-- A string as the dialect prints it. -/
def printText (d : Dialect) (cs : List Char) : List Char :=
  Text.delimited '\'' '\'' (cs.flatMap d.escapeChar)

/-- A quoted name as the dialect prints it. -/
def printName (d : Dialect) (cs : List Char) : List Char :=
  Text.delimited d.nameQuotes.1 d.nameQuotes.2 cs

end Dialect

end QueryBook
