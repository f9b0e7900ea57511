import QueryBook.Log.Logger
import QueryBook.Log.Record
import QueryBook.Source.Encoding.Utf8
import QueryBook.Source.FileTree
import QueryBook.Settings

/-!
# The logging system

`LogSystem.setup` replaces the handlers: a console handler and, if a log file is named, a file
handler, both at one level, which is also that of the root logger. A record goes from its
logger to every handler whose level it reaches. A setup with an unknown level changes nothing;
one that cannot open its file keeps what it did before.
-/

namespace QueryBook

/-- Where records end up. -/
inductive Handler where
  | console (level : Level) (colors : Bool)
  /-- Adds lines to the file at a location. -/
  | file (level : Level) (place : Location)
  deriving DecidableEq, Repr

namespace Handler

/-- The level from which on a handler takes records. -/
def level : Handler → Level
  | console l _ | file l _ => l

/-- Whether the handler marks level names by colors. -/
def colors : Handler → Bool
  | console _ colors => colors
  | file .. => false

/-- What the handler writes for a record, its line or nothing if no line can be made of it, and
the record as the next handler gets it. -/
def emit (h : Handler) (r : Record) : String × Record :=
  match r.format .full h.colors with
  | (.ok line, r) => (line ++ "\n", r)
  | (.error _, r) => ("", r)

end Handler

/-- Why logging cannot be set up as asked. -/
inductive LogFault where
  | unknownLevel (choice : LevelChoice)
  | path (fault : PathFault)
  | nulInPath
  deriving DecidableEq, Repr

/-- The wording of the faults that are about a value. -/
def LogFault.message : LogFault → String
  | unknownLevel choice => "Unknown log level: " ++ choice.text
  | path _ => ""
  | nulInPath => "embedded null byte"

/-- What a setup is asked for; what is left out is taken from the settings. -/
structure LogSetup where
  level : Option LevelChoice
  file : Option String
  directory : Option String
  console : Bool
  colors : Option Bool

/-- The loggers, the handlers of the root logger, and the files. -/
structure LogSystem where
  loggers : Loggers
  handlers : List Handler
  files : FileTree

namespace LogSystem

/-- No handlers, and only the root logger. -/
def initial (files : FileTree) : LogSystem :=
  ⟨.initial, [], files⟩

/-- The level chosen, or the fault that there is none of that name. -/
def resolve (choice : LevelChoice) : Except LogFault Level :=
  match choice.level? with
  | some l => .ok l
  | none => .error (.unknownLevel choice)

/-- The path with every `..` taking back the name before it. -/
def straightened (t : FileTree) (p : Path) : Path :=
  ⟨1, (t.origin p ++ p.names).foldl (fun names name =>
    if name = ".." then names.dropLast else names ++ [name]) []⟩

/-- The system with a log file opened in a directory, which is made if it is missing. -/
def openLog (s : LogSystem) (directory : Path) (file : String) (level : Level) :
    LogSystem × Option LogFault :=
  if directory.text.toList.contains '\x00' then (s, some .nulInPath)
  else
    match s.files.makeDirectories directory.slashes directory.names.reverse with
    | (files, some (fault, _)) => ({ s with files }, some (.path fault))
    | (files, none) =>
      if file.toList.contains '\x00' then ({ s with files }, some .nulInPath)
      else
        match files.openFile (straightened files (directory.append (.ofString file))) with
        | .error fault => ({ s with files }, some (.path fault))
        | .ok (place, files) =>
          ({ s with files, handlers := s.handlers ++ [.file level place] }, none)

/-- The directory of the log file. -/
def directory (settings : Settings) (setup : LogSetup) : Path :=
  match setup.directory.filter (· != "") with
  | some d => .ofString d
  | none => settings.logDirectory

/-- The name of the log file, if one is to be written. -/
def logFile? (settings : Settings) (setup : LogSetup) : Option String :=
  match setup.file.filter (· != "") with
  | some f => some f
  | none => settings.logFile

/-- The system set up anew. -/
def setup (s : LogSystem) (settings : Settings) (arguments : LogSetup) :
    LogSystem × Option LogFault :=
  match resolve (.orElse arguments.level (.name settings.logLevel)) with
  | .error fault => (s, some fault)
  | .ok level =>
    let console :=
      if arguments.console then [Handler.console level (arguments.colors.getD settings.colors)]
      else []
    let s : LogSystem := ⟨s.loggers.setLevel Loggers.rootName level, console, s.files⟩
    match logFile? settings arguments with
    | none => (s, none)
    | some file => s.openLog (directory settings arguments) file level

/-- The system with a logger of the name, at the level chosen, if one is. -/
def getLogger (s : LogSystem) (name : String) (choice : Option LevelChoice) :
    LogSystem × Option LogFault :=
  let loggers := s.loggers.register name
  match choice.filter LevelChoice.isGiven with
  | none => ({ s with loggers }, none)
  | some choice =>
    match resolve choice with
    | .error fault => ({ s with loggers }, some fault)
    | .ok level => ({ s with loggers := loggers.setLevel name level }, none)

/-- What the console shows of a record of a level, and the files with its lines. The record goes
from handler to handler, as each leaves it. -/
def deliver (level : Level) : List Handler → Record → FileTree → String × FileTree
  | [], _, files => ("", files)
  | h :: hs, r, files =>
    if h.level ≤ level then
      let (line, r) := h.emit r
      match h with
      | .console .. =>
        let (shown, files) := deliver level hs r files
        (line ++ shown, files)
      | .file _ place => deliver level hs r (files.addTo place (Utf8.encode line))
    else deliver level hs r files

/-- The system after a record was given to a logger, and what the console shows of it. -/
def log (s : LogSystem) (name : String) (level : Level) (message : String) (created : Int) :
    LogSystem × String :=
  let loggers := s.loggers.register name
  if loggers.takes name level then
    let record : Record := ⟨Loggers.shownName name, level.label, message, created⟩
    let (shown, files) := deliver level s.handlers record s.files
    (⟨loggers, s.handlers, files⟩, shown)
  else ({ s with loggers }, "")

end LogSystem

/-- One step in the use of logging. -/
inductive LogStep where
  | getLogger (name : String) (level : Option LevelChoice)
  | setup (arguments : LogSetup)
  | log (name : String) (level : Level) (message : String) (created : Int)

/-- What a step comes to: the fault that ended it, if one did, and what the console showed. -/
structure LogAnswer where
  fault : Option LogFault
  shown : String

namespace LogSystem

/-- The system after a step, and what the step comes to. -/
def step (settings : Settings) (s : LogSystem) : LogStep → LogSystem × LogAnswer
  | .getLogger name level =>
    let (s, fault) := s.getLogger name level
    (s, ⟨fault, ""⟩)
  | .setup arguments =>
    let (s, fault) := s.setup settings arguments
    (s, ⟨fault, ""⟩)
  | .log name level message created =>
    let (s, shown) := s.log name level message created
    (s, ⟨none, shown⟩)

/-- The system after some steps. -/
def after (settings : Settings) (s : LogSystem) (steps : List LogStep) : LogSystem :=
  steps.foldl (fun s x => (s.step settings x).1) s

end LogSystem

end QueryBook
