import QueryBook.Number.Basic
import QueryBook.Text.Upper

/-!
# Levels

The level of a record says how serious it is; the level of a logger or a handler says from
where on records pass. Six levels have names, two of them a second one. Level zero is no
level: a logger without a level takes that of the logger above it.
-/

namespace QueryBook

/-- A level of records, loggers and handlers. -/
abbrev Level := Int

namespace Level

/-- The levels with a name, by the name they are written with. -/
def written : List (Level × String) :=
  [(50, "CRITICAL"), (40, "ERROR"), (30, "WARNING"), (20, "INFO"), (10, "DEBUG"), (0, "NOTSET")]

/-- The names that are also read. -/
def alsoRead : List (String × Level) :=
  [("FATAL", 50), ("WARN", 30)]

/-- The written form of a level. -/
def label (l : Level) : String :=
  match written.lookup l with
  | some name => name
  | none => "Level " ++ String.ofList (Number.intText l)

/-- The level of a name in capitals. -/
def named? (name : String) : Option Level :=
  match written.find? fun e => e.2 == name with
  | some e => some e.1
  | none => alsoRead.lookup name

end Level

/-- A level as it is asked for: by name in any case, or by number. -/
inductive LevelChoice where
  | name (s : String)
  | number (l : Level)
  deriving DecidableEq, Repr

namespace LevelChoice

/-- Whether a choice was made: the empty name and zero make none. -/
def isGiven : LevelChoice → Bool
  | name s => s != ""
  | number l => l != 0

/-- The level chosen, if there is one of that name. -/
def level? : LevelChoice → Option Level
  | name s => Level.named? (Text.upper s)
  | number l => some l

/-- The written form of a choice. -/
def text : LevelChoice → String
  | name s => s
  | number l => String.ofList (Number.intText l)

/-- The choice that was made, or the one to fall back on. -/
def orElse (choice : Option LevelChoice) (fallback : LevelChoice) : LevelChoice :=
  match choice.filter isGiven with
  | some c => c
  | none => fallback

end LevelChoice

end QueryBook
