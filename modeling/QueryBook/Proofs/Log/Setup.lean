import Mathlib.Data.List.Induction
import QueryBook.Log.System
import QueryBook.Proofs.Source.Tree

/-!
# Handlers after setups

A setup finds its level first, and does nothing if there is none of that name (`setup_of_none`).
Otherwise it leaves no handler of an earlier one: those there are afterwards are a console handler,
if one was asked for, and the handler of the log file, if one was asked for and could be opened
(`setup_of_level`). So in a sequence of setups the last one with a level decides (`after_setups`).
-/

namespace QueryBook

/-- The level that a setup asks for, if there is one of that name. -/
def LogSetup.level? (settings : Settings) (a : LogSetup) : Option Level :=
  (LevelChoice.orElse a.level (.name settings.logLevel)).level?

/-- The console handlers of a setup. -/
def LogSetup.consoleHandlers (settings : Settings) (a : LogSetup) (level : Level) : List Handler :=
  if a.console then [.console level (a.colors.getD settings.colors)] else []

/-- Whether a handler writes to a file. -/
def Handler.isFile : Handler → Bool
  | console .. => false
  | file .. => true

namespace LogSystem

/-- A log file can be opened in a directory: both have names, the directory is there or can be made,
and then the path leads to a file or to where one can be made. -/
structure Opens (t : FileTree) (directory : Path) (file : String) (place : Location)
    (t' : FileTree) : Prop where
  directory_text : '\x00' ∉ directory.text.toList
  file_text : '\x00' ∉ file.toList
  opened : ∃ made, t.makeDirectories directory.slashes directory.names.reverse = (made, none) ∧
    made.openFile (straightened made (directory.append (.ofString file))) = .ok (place, t')

/-- The handlers that a setup at a level has for its log file: none if no file is asked for or if
it cannot be opened, and else one for the file that was opened. -/
inductive FileHandlers (settings : Settings) (a : LogSetup) (level : Level) (t : FileTree) :
    List Handler → FileTree → Option LogFault → Prop
  | unasked (hfile : logFile? settings a = none) : FileHandlers settings a level t [] t none
  | opened {file : String} {place : Location} {t' : FileTree}
      (hfile : logFile? settings a = some file)
      (hopen : Opens t (directory settings a) file place t') :
      FileHandlers settings a level t [.file level place] t' none
  | failed {file : String} {t' : FileTree} {fault : LogFault}
      (hfile : logFile? settings a = some file)
      (hopen : ∀ place t', ¬ Opens t (directory settings a) file place t') :
      FileHandlers settings a level t [] t' (some fault)

theorem openLog_cases (s : LogSystem) (directory : Path) (file : String) (level : Level) :
    (∃ place t', Opens s.files directory file place t' ∧
        s.openLog directory file level =
          ({ s with files := t', handlers := s.handlers ++ [.file level place] }, none)) ∨
      (∀ place t', ¬ Opens s.files directory file place t') ∧
        ∃ t' fault, s.openLog directory file level = ({ s with files := t' }, some fault) := by
  rw [openLog]
  split
  · next hnul =>
    exact .inr ⟨fun _ _ h => h.directory_text (List.contains_iff_mem.1 hnul), s.files, _, rfl⟩
  · next hdir =>
    split
    · next made fault path hmade =>
      refine .inr ⟨fun _ _ h => ?_, made, _, rfl⟩
      obtain ⟨_, hmade', -⟩ := h.opened
      cases hmade.symm.trans hmade'
    · next made hmade =>
      split
      · next hnul =>
        exact .inr ⟨fun _ _ h => h.file_text (List.contains_iff_mem.1 hnul), made, _, rfl⟩
      · next hfile =>
        split
        · next fault hopen =>
          refine .inr ⟨fun _ _ h => ?_, made, _, rfl⟩
          obtain ⟨_, hmade', hopen'⟩ := h.opened
          cases hmade.symm.trans hmade'
          cases hopen.symm.trans hopen'
        · next place t' hopen =>
          exact .inl ⟨place, t', ⟨mt List.contains_iff_mem.2 hdir, mt List.contains_iff_mem.2 hfile,
            made, hmade, hopen⟩, rfl⟩

/-- A setup with an unknown level changes nothing. -/
theorem setup_of_none {settings : Settings} {a : LogSetup} (h : a.level? settings = none)
    (s : LogSystem) : s.setup settings a =
      (s, some (.unknownLevel (.orElse a.level (.name settings.logLevel)))) := by
  rw [LogSetup.level?] at h
  rw [setup, resolve, h]

/-- The system without the handlers of earlier setups, at another level. -/
def restarted (settings : Settings) (s : LogSystem) (a : LogSetup) (level : Level) : LogSystem :=
  ⟨s.loggers.setLevel Loggers.rootName level, a.consoleHandlers settings level, s.files⟩

section

variable {settings : Settings} {a : LogSetup} {level : Level}
  (h : a.level? settings = some level) (s : LogSystem)

include h

theorem setup_of_noFile (hfile : logFile? settings a = none) :
    s.setup settings a = (s.restarted settings a level, none) := by
  rw [LogSetup.level?] at h
  rw [setup, resolve, h, hfile]
  rfl

theorem setup_of_file {file : String} (hfile : logFile? settings a = some file) :
    s.setup settings a =
      (s.restarted settings a level).openLog (directory settings a) file level := by
  rw [LogSetup.level?] at h
  rw [setup, resolve, h, hfile]
  rfl

/-- What a setup with a level does. -/
theorem setup_of_level : ∃ handlers t' fault,
    FileHandlers settings a level s.files handlers t' fault ∧
      s.setup settings a =
        (⟨s.loggers.setLevel Loggers.rootName level,
          a.consoleHandlers settings level ++ handlers, t'⟩, fault) := by
  cases hfile : logFile? settings a with
  | none =>
    refine ⟨[], s.files, none, .unasked hfile, ?_⟩
    rw [setup_of_noFile h s hfile, List.append_nil, restarted]
  | some file =>
    rw [setup_of_file h s hfile]
    obtain ⟨place, t', hopen, hlog⟩ | ⟨hopen, t', fault, hlog⟩ :=
      openLog_cases (s.restarted settings a level) (directory settings a) file level
    · exact ⟨_, t', none, .opened hfile hopen, hlog⟩
    · exact ⟨[], t', some fault, .failed hfile hopen, by rw [hlog, List.append_nil]; rfl⟩

end

/-! ## The handlers of one setup -/

section

variable {settings : Settings} {a : LogSetup} {level : Level} {t t' : FileTree}
  {handlers : List Handler} {fault : Option LogFault}

/-- A log file that was opened is there. -/
theorem FileHandlers.find? (h : FileHandlers settings a level t handlers t' fault) {l : Level}
    {place : Location} (hmem : .file l place ∈ handlers) :
    ∃ content, t'.find? place = some (.file content) := by
  cases h with
  | unasked | failed => cases hmem
  | opened _ hopen =>
    obtain ⟨_, -, hopen⟩ := hopen.opened
    cases List.mem_singleton.1 hmem
    exact FileTree.find?_openFile hopen

/-- There is at most one of them. -/
theorem FileHandlers.eq_nil_or (h : FileHandlers settings a level t handlers t' fault) :
    handlers = [] ∨ ∃ place, handlers = [.file level place] := by
  cases h with
  | unasked | failed => exact .inl rfl
  | opened => exact .inr ⟨_, rfl⟩

theorem consoleHandlers_eq_nil_or (settings : Settings) (a : LogSetup) (level : Level) :
    a.consoleHandlers settings level = [] ∨
      ∃ colors, a.consoleHandlers settings level = [.console level colors] := by
  rw [LogSetup.consoleHandlers]
  split
  · exact .inr ⟨_, rfl⟩
  · exact .inl rfl

/-- The handlers of a setup are at its level, and there is at most one of each kind. -/
theorem handlers_of_setup (h : FileHandlers settings a level t handlers t' fault) :
    let all := a.consoleHandlers settings level ++ handlers
    (∀ x ∈ all, x.level = level) ∧ (all.filter (·.isFile)).length ≤ 1 ∧
      (all.filter (!·.isFile)).length ≤ 1 := by
  obtain hconsole | ⟨colors, hconsole⟩ := consoleHandlers_eq_nil_or settings a level <;>
    obtain rfl | ⟨place, rfl⟩ := h.eq_nil_or <;>
    simp [hconsole, Handler.level, Handler.isFile]

end

/-! ## Sequences of setups -/

theorem after_append (settings : Settings) (s : LogSystem) (steps steps' : List LogStep) :
    s.after settings (steps ++ steps') = (s.after settings steps).after settings steps' :=
  List.foldl_append

/-- After setups the system is as the last one with a level left it, or as it was before if none
has a level. -/
theorem after_setups (settings : Settings) (s : LogSystem) (calls : List LogSetup) :
    (∀ c ∈ calls, c.level? settings = none) ∧ s.after settings (calls.map .setup) = s ∨
      ∃ before c later level, calls = before ++ c :: later ∧ c.level? settings = some level ∧
        (∀ d ∈ later, d.level? settings = none) ∧
        s.after settings (calls.map .setup) =
          ((s.after settings (before.map .setup)).setup settings c).1 := by
  induction calls using List.reverseRecOn with
  | nil => exact .inl ⟨nofun, rfl⟩
  | append_singleton calls c ih =>
    have hlast : s.after settings ((calls ++ [c]).map .setup) =
        ((s.after settings (calls.map .setup)).setup settings c).1 := by
      rw [List.map_append, after_append]
      rfl
    cases hlevel : c.level? settings with
    | some level => exact .inr ⟨calls, c, [], level, rfl, hlevel, nofun, hlast⟩
    | none =>
      rw [setup_of_none hlevel] at hlast
      rw [hlast]
      obtain ⟨hnone, hsame⟩ | ⟨before, d, later, level, rfl, hd, hlater, hsame⟩ := ih
      · refine .inl ⟨?_, hsame⟩
        simpa [or_imp, forall_and, hlevel] using hnone
      · refine .inr ⟨before, d, later ++ [c], level, by simp, hd, ?_, hsame⟩
        simpa [or_imp, forall_and, hlevel] using hlater

/-- **The handlers are those of the last setup that had a level.** In any sequence of setups from a
root logger without handlers, either none has a level and there are no handlers, or they are those
that the last setup with a level installed, at its level: a console handler if one was asked for,
and behind it the handler of the log file if one was asked for and could be opened. So there are
never two of one kind. A setup with an unknown level fails for that and changes nothing. -/
theorem setups_handlers (settings : Settings) (loggers : Loggers) (files : FileTree)
    (calls : List LogSetup) :
    let start : LogSystem := ⟨loggers, [], files⟩
    let s := start.after settings (calls.map .setup)
    ((∀ c ∈ calls, c.level? settings = none) ∧ s = start ∨
        ∃ before c later level, calls = before ++ c :: later ∧ c.level? settings = some level ∧
          (∀ d ∈ later, d.level? settings = none) ∧
          (∃ handlers fault, FileHandlers settings c level
              (start.after settings (before.map .setup)).files handlers s.files fault ∧
            s.handlers = c.consoleHandlers settings level ++ handlers) ∧
          ∀ h ∈ s.handlers, h.level = level) ∧
      (s.handlers.filter (·.isFile)).length ≤ 1 ∧ (s.handlers.filter (!·.isFile)).length ≤ 1 ∧
      ∀ (s : LogSystem) (c : LogSetup), c.level? settings = none →
        s.setup settings c =
          (s, some (.unknownLevel (.orElse c.level (.name settings.logLevel)))) := by
  intro start s
  have hunknown (s : LogSystem) (c : LogSetup) (h : c.level? settings = none) :=
    setup_of_none h s
  obtain ⟨hnone, hsame⟩ | ⟨before, c, later, level, hcalls, hlevel, hlater, hlast⟩ :=
    after_setups settings start calls
  · have hs : s = start := hsame
    exact ⟨.inl ⟨hnone, hs⟩, by simp [hs, start], by simp [hs, start], hunknown⟩
  · have hs : s = ((start.after settings (before.map .setup)).setup settings c).1 := hlast
    obtain ⟨handlers, t', fault, hfile, hsetup⟩ :=
      setup_of_level hlevel (start.after settings (before.map .setup))
    rw [hsetup] at hs
    obtain ⟨hlevels, hfiles, hconsoles⟩ := handlers_of_setup hfile
    rw [hs]
    exact ⟨.inr ⟨before, c, later, level, hcalls, hlevel, hlater,
      ⟨handlers, fault, hfile, rfl⟩, hlevels⟩, hfiles, hconsoles, hunknown⟩

/-- A setup with a console and a log file. -/
def infoSetup : LogSetup :=
  ⟨some (.name "info"), some "a.log", none, true, some true⟩

end LogSystem

end QueryBook
