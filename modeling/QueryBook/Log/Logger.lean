import QueryBook.Log.Level
import QueryBook.NameMap

/-!
# Loggers

Loggers are named, and dots in the names make a hierarchy below the root logger. A logger has
a level of its own or, at level zero, takes that of the nearest known logger above it.
-/

namespace QueryBook

/-- The loggers that have been asked for, each with its own level. -/
structure Loggers where
  root : Level
  levels : NameMap Level

namespace Loggers

/-- The name of the root logger in records. -/
def rootName : String := "root"

/-- Only the root logger, at the level of warnings. -/
def initial : Loggers :=
  ⟨30, .empty⟩

/-- Whether a name is that of the root logger. -/
def isRoot (name : String) : Bool :=
  name == "" || name == rootName

/-- The name that a logger has in records. -/
def shownName (name : String) : String :=
  if isRoot name then rootName else name

/-- The loggers with one of the name. -/
def register (ls : Loggers) (name : String) : Loggers :=
  if isRoot name || ls.levels.contains name then ls
  else { ls with levels := ls.levels.insert name 0 }

/-- The loggers with the own level of one of them set. -/
def setLevel (ls : Loggers) (name : String) (level : Level) : Loggers :=
  if isRoot name then { ls with root := level }
  else { ls with levels := ls.levels.insert name level }

/-- The own level of a logger; one that was not asked for has none. -/
def ownLevel (ls : Loggers) (name : String) : Level :=
  if isRoot name then ls.root else (ls.levels.find? name).getD 0

/-- The level that a logger takes from those above it; its name is given from its end. The
names above it end where a dot follows. A name above that is not known is passed over with its
last character. -/
def inherited (ls : Loggers) : List Char → Level
  | [] => ls.root
  | '.' :: c :: cs =>
    match ls.levels.find? (String.ofList (c :: cs).reverse) with
    | some 0 => ls.inherited (c :: cs)
    | some level => level
    | none => ls.inherited cs
  | _ :: cs => ls.inherited cs

/-- The level from which on a logger takes records. -/
def effective (ls : Loggers) (name : String) : Level :=
  if isRoot name then ls.root
  else if ls.ownLevel name = 0 then ls.inherited name.toList.reverse
  else ls.ownLevel name

/-- Whether a logger takes records of a level; those at or below level zero are never taken. -/
def takes (ls : Loggers) (name : String) (level : Level) : Bool :=
  0 < level && ls.effective name ≤ level

end Loggers

end QueryBook
