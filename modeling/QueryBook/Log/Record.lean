import QueryBook.Log.Level
import QueryBook.Log.Timestamp

/-!
# Records

A record is a message with the name of the logger that it was given to, its level and its
time. A layout says which of these a line shows, and in which order. Colors mark the names of
the five levels that have one: while a colored line is made, the record has the marked name for
its level, and it gets its own back before the next handler sees it.
-/

namespace QueryBook

/-- A message on its way to the handlers. -/
structure Record where
  logger : String
  /-- The name of its level as it is shown. -/
  levelName : String
  message : String
  /-- The Unix time in seconds. -/
  created : Int
  deriving DecidableEq, Repr

/-- A piece of a line. -/
inductive LinePiece where
  | time
  | logger
  | level
  | message
  /-- A text of the line itself. -/
  | text (s : String)
  deriving DecidableEq, Repr

/-- What a line shows of a record, piece by piece. -/
abbrev RecordLayout := List LinePiece

namespace RecordLayout

/-- Time, logger, level and message. -/
def full : RecordLayout :=
  [.time, .text " - ", .logger, .text " - ", .level, .text " - ", .message]

/-- Level and message. -/
def short : RecordLayout :=
  [.level, .text " ", .message]

end RecordLayout

namespace Record

/-- The text of a piece; a time may have none. -/
def piece (r : Record) : LinePiece → Except Timestamp.Fault String
  | .time => Timestamp.text? r.created
  | .logger => .ok r.logger
  | .level => .ok r.levelName
  | .message => .ok r.message
  | .text s => .ok s

/-- The line of a record; one that shows a time without a text cannot be made. -/
def line (r : Record) : RecordLayout → Except Timestamp.Fault String
  | [] => .ok ""
  | p :: ps => do
    let text ← r.piece p
    let rest ← r.line ps
    return text ++ rest

/-- The color codes of level names. -/
def colorCodes : List (String × String) :=
  [("DEBUG", "36"), ("INFO", "32"), ("WARNING", "33"), ("ERROR", "31"), ("CRITICAL", "35")]

/-- The sequence that switches to a color, or back. -/
def escape (code : String) : String :=
  "\x1b[" ++ code ++ "m"

/-- The name of a level in its color, if it has one. -/
def colored (level : String) : String :=
  match colorCodes.lookup level with
  | some code => escape code ++ level ++ escape "0"
  | none => level

/-- The line of a record, with or without colors, and the record behind it. The name of its
level is set back also if no line can be made. -/
def format (layout : RecordLayout) (colors : Bool) (r : Record) :
    Except Timestamp.Fault String × Record :=
  if colors then
    let marked := { r with levelName := colored r.levelName }
    (marked.line layout, { marked with levelName := r.levelName })
  else (r.line layout, r)

end Record

end QueryBook
