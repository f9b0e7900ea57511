import QueryBook.Proofs.Log.Formatting
import QueryBook.Proofs.Log.Setup

/-!
# Logging without the console

What a console handler does with a record changes neither the record nor a file. So leaving out all
consoles and their colors commutes with every step (`step_withoutConsole`), and the files of a run
do not depend on them (`colors_stay_on_console`).
-/

namespace QueryBook

/-- A setup without its choices for the console. -/
def LogSetup.withoutConsole (a : LogSetup) : LogSetup :=
  { a with console := false, colors := none }

/-- A step without choices for the console. -/
def LogStep.withoutConsole : LogStep → LogStep
  | setup a => setup a.withoutConsole
  | x => x

namespace LogSystem

/-- A system without its console handlers. -/
def withoutConsole (s : LogSystem) : LogSystem :=
  { s with handlers := s.handlers.filter (·.isFile) }

/-- Console handlers do not matter for the files. -/
theorem files_deliver (level : Level) (hs : List Handler) (r : Record) (files : FileTree) :
    (deliver level (hs.filter (·.isFile)) r files).2 = (deliver level hs r files).2 := by
  induction hs generalizing files with
  | nil => rfl
  | cons x hs ih =>
    cases x with
    | console l colors =>
      rw [List.filter_cons_of_neg (by simp [Handler.isFile]), ih, deliver_console]
      split <;> rfl
    | file l place =>
      rw [List.filter_cons_of_pos rfl, deliver_file, deliver_file]
      split <;> exact ih _

theorem openLog_withoutConsole (s : LogSystem) (directory : Path) (file : String) (level : Level) :
    s.withoutConsole.openLog directory file level =
      ((s.openLog directory file level).1.withoutConsole,
        (s.openLog directory file level).2) := by
  have hfiles : s.withoutConsole.files = s.files := rfl
  rw [openLog, openLog, hfiles]
  split
  · rfl
  · split
    · rfl
    · split
      · rfl
      · split
        · rfl
        · simp [withoutConsole, Handler.isFile]

theorem restarted_withoutConsole (settings : Settings) (s : LogSystem) (a : LogSetup)
    (level : Level) : s.withoutConsole.restarted settings a.withoutConsole level =
      (s.restarted settings a level).withoutConsole := by
  cases hconsole : a.console <;>
    simp [restarted, withoutConsole, hconsole, LogSetup.consoleHandlers, LogSetup.withoutConsole,
      Handler.isFile]

theorem setup_withoutConsole (settings : Settings) (s : LogSystem) (a : LogSetup) :
    s.withoutConsole.setup settings a.withoutConsole =
      ((s.setup settings a).1.withoutConsole, (s.setup settings a).2) := by
  cases hlevel : a.level? settings with
  | none =>
    have hlevel' : a.withoutConsole.level? settings = none := hlevel
    rw [setup_of_none hlevel, setup_of_none hlevel']
    rfl
  | some level =>
    have hlevel' : a.withoutConsole.level? settings = some level := hlevel
    cases hfile : logFile? settings a with
    | none =>
      have hfile' : logFile? settings a.withoutConsole = none := hfile
      rw [setup_of_noFile hlevel s hfile, setup_of_noFile hlevel' _ hfile',
        restarted_withoutConsole]
    | some file =>
      have hfile' : logFile? settings a.withoutConsole = some file := hfile
      rw [setup_of_file hlevel s hfile, setup_of_file hlevel' _ hfile', restarted_withoutConsole]
      exact openLog_withoutConsole _ (directory settings a) file level

/-- Leaving out the consoles commutes with every step. -/
theorem step_withoutConsole (settings : Settings) (s : LogSystem) (x : LogStep) :
    (s.withoutConsole.step settings x.withoutConsole).1 = (s.step settings x).1.withoutConsole := by
  cases x with
  | getLogger name choice =>
    have hget : s.withoutConsole.getLogger name choice =
        ((s.getLogger name choice).1.withoutConsole, (s.getLogger name choice).2) := by
      rw [getLogger, getLogger]
      split
      · rfl
      · split <;> rfl
    exact congrArg Prod.fst hget
  | setup a => exact congrArg Prod.fst (setup_withoutConsole settings s a)
  | log name level message created =>
    have hlog : (s.withoutConsole.log name level message created).1 =
        (s.log name level message created).1.withoutConsole := by
      have hloggers : s.withoutConsole.loggers = s.loggers := rfl
      rw [log, log, hloggers]
      split
      · simp only [withoutConsole, files_deliver]
      · rfl
    exact hlog

theorem after_withoutConsole (settings : Settings) (s : LogSystem) (steps : List LogStep) :
    s.withoutConsole.after settings (steps.map .withoutConsole) =
      (s.after settings steps).withoutConsole := by
  induction steps generalizing s with
  | nil => rfl
  | cons x steps ih =>
    rw [List.map_cons, after, List.foldl_cons, step_withoutConsole]
    exact ih _

/-- **Colors do not leave the console.** Two runs from one state whose steps differ only in whether
setups ask for a console, and for colors, leave the same files. Making a line, with or without
colors, leaves the record as it was, and a colored line is the plain one with the marked name of the
level wherever the layout shows it: one of the five names with a color stands between its code and
the code that switches back, and every other name as it is. -/
theorem colors_stay_on_console {settings : Settings} {steps steps' : List LogStep}
    (h : steps.map LogStep.withoutConsole = steps'.map LogStep.withoutConsole)
    (s : LogSystem) :
    (s.after settings steps).files = (s.after settings steps').files ∧
      ∀ (layout : RecordLayout) (r : Record),
        (∀ colors, (r.format layout colors).2 = r) ∧
        ((∃ fault, ∀ name, ((r.named name).format layout false).1 = .error fault ∧
            ((r.named name).format layout true).1 = .error fault) ∨
          ∃ first others, ∀ name,
            ((r.named name).format layout false).1 = .ok (name.intercalate (first :: others)) ∧
              ((r.named name).format layout true).1 =
                .ok ((Record.colored name).intercalate (first :: others))) ∧
        ∀ name, (∀ code, (name, code) ∈ Record.colorCodes →
            Record.colored name = "\x1b[" ++ code ++ "m" ++ name ++ "\x1b[0m") ∧
          (name ∉ ["DEBUG", "INFO", "WARNING", "ERROR", "CRITICAL"] →
            Record.colored name = name) := by
  refine ⟨?_, fun layout r => ⟨fun colors => r.format_record layout colors, r.line_named layout,
    fun name => ⟨fun code => Record.colored_of_code, Record.colored_of_notMem⟩⟩⟩
  have hrun (steps : List LogStep) : (s.after settings steps).files =
      (s.withoutConsole.after settings (steps.map .withoutConsole)).files :=
    (congrArg LogSystem.files (after_withoutConsole settings s steps)).symm
  rw [hrun steps, hrun steps', h]

/-- One run has a console with colors, the other has none. -/
theorem colors_stay_on_console_warning :
    let settings := Settings.ofEnvironment []
    let warning := LogStep.log "app.x" 30 "m" 0
    let steps := [.setup infoSetup, warning]
    let steps' := [.setup { infoSetup with console := false, colors := some false }, warning]
    let run := (initial (.ofHome ["work"])).after settings
    steps.map LogStep.withoutConsole = steps'.map LogStep.withoutConsole ∧
      (run steps).files = (run steps').files ∧
      (run steps).handlers = [.console 20 true, .file 20 ["work", "logs", "a.log"]] ∧
      (run steps').handlers = [.file 20 ["work", "logs", "a.log"]] ∧
      (Record.format .short true ⟨"app.x", "WARNING", "m", 0⟩).2 =
        ⟨"app.x", "WARNING", "m", 0⟩ := by
  intro settings warning steps steps' run
  have hsame : steps.map LogStep.withoutConsole = steps'.map LogStep.withoutConsole := rfl
  obtain ⟨hfiles, hrecord⟩ :=
    colors_stay_on_console hsame (initial (.ofHome ["work"]))
  refine ⟨hsame, hfiles, by decide, by decide, ?_⟩
  exact (hrecord .short ⟨"app.x", "WARNING", "m", 0⟩).1 true

end LogSystem

end QueryBook
