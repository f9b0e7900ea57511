import QueryBook.Source.Path
import QueryBook.Text.Blank
import QueryBook.Text.Upper

/-!
# Settings

The settings of the library, taken from environment variables. Every setting has a default, so
that an empty environment is a usable one. For most names the empty value counts as absent.
-/

namespace QueryBook

/-- The values of environment variables; of two entries of one name the later counts. -/
abbrev Environment := List (String × String)

namespace Environment

/-- The value of a variable. -/
def get? (env : Environment) (name : String) : Option String :=
  env.reverse.lookup name

/-- The value of a variable that may not be empty. -/
def nonempty? (env : Environment) (name : String) : Option String :=
  (env.get? name).filter (· != "")

end Environment

/-- The words that switch a flag on. -/
def onWords : List String := ["1", "true", "yes", "on"]

/-- The flag that a value sets: on for the words of `onWords` in any case, off for all others,
and the default if the value is absent or blank. -/
def flag (value : Option String) (default : Bool) : Bool :=
  match value with
  | none => default
  | some raw =>
    let word := Text.trim raw.toList
    if word.isEmpty then default else onWords.contains (String.ofList (word.map Char.toLower))

/-- The settings of the library. -/
structure Settings where
  /-- The query file that a store configured by the settings begins with. -/
  defaultFile : Option String
  /-- The package searched before the file system, if any is. -/
  package : Option String
  encoding : String
  /-- The dialect of statements; the empty name is the generic one. -/
  dialect : String
  strictBinding : Bool
  logLevel : String
  logFile : Option String
  logDirectory : Path
  colors : Bool

namespace Settings

/-- The settings that an environment makes. -/
def ofEnvironment (env : Environment) : Settings where
  defaultFile := env.nonempty? "NAMED_SQL_DEFAULT_FILE"
  package := some ((env.get? "NAMED_SQL_RESOURCE_PACKAGE").getD "queries.resources")
    |>.filter (· != "")
  encoding := (env.get? "NAMED_SQL_ENCODING").getD "utf-8"
  dialect := (env.get? "NAMED_SQL_DIALECT").getD ""
  strictBinding := flag (env.get? "NAMED_SQL_STRICT_BINDING") false
  logLevel := Text.upper ((env.get? "NAMED_SQL_LOG_LEVEL").getD "INFO")
  logFile := env.nonempty? "NAMED_SQL_LOG_FILE"
  logDirectory := .ofString ((env.get? "NAMED_SQL_LOG_DIR").getD "logs")
  colors := flag (env.get? "NAMED_SQL_LOG_COLORS") true

/-- The dialect asked for, or else that of the settings. -/
def dialectOr (settings : Settings) (choice : Option String) : String :=
  choice.getD settings.dialect

/-- The encoding asked for, or else that of the settings; the empty name asks for none. -/
def encodingOr (settings : Settings) (choice : Option String) : String :=
  (choice.filter (· != "")).getD settings.encoding

end Settings

end QueryBook
