import QueryBook.Proofs.Log.Formatting
import QueryBook.Proofs.Log.Hierarchy
import QueryBook.Proofs.Log.Setup

/-!
# Delivery of records

Only a setup with a level touches the handlers (`handlers_after`), and the files that they write to
stay there (`live_after`). A record reaches them if it has the level of its logger (`log_eq`), and
then each handler of a level that the record has writes its line once, whatever levels the loggers
have been given since (`records_written`).
-/

namespace QueryBook

/-- The level of a step that is a setup with a level. -/
def LogStep.level? (settings : Settings) : LogStep → Option Level
  | setup a => a.level? settings
  | _ => none

namespace LogSystem

/-! ## What steps leave -/

theorem getLogger_frame (s : LogSystem) (name : String) (choice : Option LevelChoice) :
    (s.getLogger name choice).1.handlers = s.handlers ∧
      (s.getLogger name choice).1.files = s.files := by
  rw [getLogger]
  split
  · exact ⟨rfl, rfl⟩
  · split <;> exact ⟨rfl, rfl⟩

theorem handlers_log (s : LogSystem) (name : String) (level : Level) (message : String)
    (created : Int) : (s.log name level message created).1.handlers = s.handlers := by
  rw [log]
  split <;> rfl

/-- Only a setup with a level touches the handlers. -/
theorem handlers_step {settings : Settings} {x : LogStep} (h : x.level? settings = none)
    (s : LogSystem) : (s.step settings x).1.handlers = s.handlers := by
  cases x with
  | getLogger name choice => exact (getLogger_frame s name choice).1
  | setup a =>
    rw [step, setup_of_none h]
  | log name level message created => exact handlers_log s name level message created

theorem handlers_after {settings : Settings} {steps : List LogStep}
    (h : ∀ x ∈ steps, x.level? settings = none) (s : LogSystem) :
    (s.after settings steps).handlers = s.handlers := by
  induction steps generalizing s with
  | nil => rfl
  | cons x steps ih =>
    exact (ih (fun y hy => h y (List.mem_cons_of_mem x hy)) (s.step settings x).1).trans
      (handlers_step (h x List.mem_cons_self) s)

/-- The files that handlers write to are there. -/
def Live (s : LogSystem) : Prop :=
  ∀ level place, .file level place ∈ s.handlers →
    ∃ content, s.files.find? place = some (.file content)

theorem live_initial (files : FileTree) : (initial files).Live :=
  fun _ _ h => (List.not_mem_nil h).elim

theorem isFile_deliver {q : Location} (level : Level) (hs : List Handler) (r : Record)
    {files : FileTree} (h : ∃ content, files.find? q = some (.file content)) :
    ∃ content, (deliver level hs r files).2.find? q = some (.file content) := by
  induction hs generalizing files with
  | nil => exact h
  | cons x hs ih =>
    cases x with
    | console l colors =>
      rw [deliver_console]
      split <;> exact ih h
    | file l place =>
      rw [deliver_file]
      split
      · exact ih (FileTree.isFile_addTo h place _)
      · exact ih h

theorem live_step {s : LogSystem} (h : s.Live) (settings : Settings) (x : LogStep) :
    (s.step settings x).1.Live := by
  intro l place hmem
  cases x with
  | getLogger name choice =>
    obtain ⟨hhandlers, hfiles⟩ := getLogger_frame s name choice
    simp only [step, hhandlers, hfiles] at hmem ⊢
    exact h l place hmem
  | setup a =>
    cases hlevel : a.level? settings with
    | none =>
      rw [step, setup_of_none hlevel] at hmem ⊢
      exact h l place hmem
    | some least =>
      obtain ⟨handlers, t', fault, hfile, hsetup⟩ := setup_of_level hlevel s
      rw [step, hsetup] at hmem ⊢
      rcases List.mem_append.1 hmem with hconsole | hopened
      · rw [LogSetup.consoleHandlers] at hconsole
        split at hconsole <;> simp at hconsole
      · exact hfile.find? hopened
  | log name level message created =>
    have hmem' : .file l place ∈ s.handlers := handlers_log s name level message created ▸ hmem
    have hstep : (s.step settings (.log name level message created)).1 =
        (s.log name level message created).1 := rfl
    rw [hstep, log]
    split
    · exact isFile_deliver level s.handlers _ (h l place hmem')
    · exact h l place hmem'

theorem live_after {s : LogSystem} (h : s.Live) (settings : Settings) (steps : List LogStep) :
    (s.after settings steps).Live := by
  induction steps generalizing s with
  | nil => exact h
  | cons x steps ih => exact ih (live_step h settings x)

/-! ## One record -/

/-- What a record of positive level does: it goes to the handlers if it has the level of its
logger. -/
theorem log_eq (s : LogSystem) (name : String) {level : Level} (hlevel : 0 < level)
    (message : String) (created : Int) :
    s.log name level message created =
      if s.loggers.effective name ≤ level then
        let r : Record := ⟨Loggers.shownName name, level.label, message, created⟩
        (⟨s.loggers.register name, s.handlers, (deliver level s.handlers r s.files).2⟩,
          (deliver level s.handlers r s.files).1)
      else ({ s with loggers := s.loggers.register name }, "") := by
  have htakes : (s.loggers.register name).takes name level =
      decide (s.loggers.effective name ≤ level) := by
    simp [Loggers.takes, Loggers.effective_register, hlevel]
  rw [log, htakes]
  simp only [decide_eq_true_eq]

/-- Handlers above the level of a record write nothing. -/
theorem deliver_of_below {level : Level} {hs : List Handler} (h : ∀ x ∈ hs, level < x.level)
    (r : Record) (files : FileTree) : deliver level hs r files = ("", files) := by
  induction hs with
  | nil => rfl
  | cons x hs ih =>
    have hx : ¬ x.level ≤ level := Int.not_le.2 (h x List.mem_cons_self)
    rw [deliver, if_neg hx, ih fun y hy => h y (List.mem_cons_of_mem x hy)]

/-- Only the files of file handlers change. -/
theorem find?_deliver_of_notMem {q : Location} (level : Level) {hs : List Handler} (r : Record)
    (files : FileTree) (h : ∀ l, .file l q ∉ hs) :
    (deliver level hs r files).2.find? q = files.find? q := by
  induction hs generalizing files with
  | nil => rfl
  | cons x hs ih =>
    have hrest (files : FileTree) := ih files fun l hl => h l (List.mem_cons_of_mem x hl)
    cases x with
    | console l colors =>
      rw [deliver_console]
      split <;> exact hrest files
    | file l place =>
      rw [deliver_file]
      split
      · have hq : q ≠ place := by
          rintro rfl
          exact h l List.mem_cons_self
        rw [hrest, FileTree.find?_addTo_of_ne hq]
      · exact hrest files

/-- Only console handlers show something. -/
theorem deliver_of_noConsole (level : Level) {hs : List Handler} (r : Record)
    (files : FileTree) (h : ∀ l colors, .console l colors ∉ hs) :
    (deliver level hs r files).1 = "" := by
  induction hs generalizing files with
  | nil => rfl
  | cons x hs ih =>
    have hrest (files : FileTree) :=
      ih files fun l colors hl => h l colors (List.mem_cons_of_mem x hl)
    cases x with
    | console l colors => exact absurd List.mem_cons_self (h l colors)
    | file l place =>
      rw [deliver_file]
      split <;> exact hrest _

/-- What nobody takes is neither shown nor written. -/
theorem log_of_below (s : LogSystem) (name : String) {level : Level}
    (h : ∀ x ∈ s.handlers, level < x.level ∨ level < s.loggers.effective name)
    (hlevel : 0 < level) (message : String) (created : Int) :
    (s.log name level message created).1.files = s.files ∧
      (s.log name level message created).2 = "" := by
  rw [log_eq s name hlevel]
  split
  · next htaken =>
    have hbelow : ∀ x ∈ s.handlers, level < x.level := fun x hx =>
      (h x hx).resolve_right (Int.not_lt.2 htaken)
    simp [deliver_of_below hbelow]
  · exact ⟨rfl, rfl⟩

/-- Without a console handler nothing is shown. -/
theorem shown_log_of_noConsole (s : LogSystem) (name : String) (level : Level) (message : String)
    (created : Int) (h : ∀ l colors, .console l colors ∉ s.handlers) :
    (s.log name level message created).2 = "" := by
  rw [log]
  split
  · exact deliver_of_noConsole level _ s.files h
  · rfl

/-- Files without a handler do not change. -/
theorem find?_log_of_notMem (s : LogSystem) (name : String) (level : Level) (message : String)
    (created : Int) {place : Location} (h : ∀ l, .file l place ∉ s.handlers) :
    (s.log name level message created).1.files.find? place = s.files.find? place := by
  rw [log]
  split
  · exact find?_deliver_of_notMem level _ s.files h
  · rfl

end LogSystem

/-- A handler writes a text when something is logged: the console shows it and nothing else, or it
goes to the end of the file. -/
def Handler.Writes (h : Handler) (text : String) (s : LogSystem) (logged : LogSystem × String) :
    Prop :=
  match h with
  | .console .. => logged.2 = text
  | .file _ place => ∃ content, s.files.find? place = some (.file content) ∧
      logged.1.files.find? place = some (.file (content ++ Utf8.encode text))

namespace LogSystem

/-- Where nothing is shown and no file changes, no handler has written anything. -/
theorem Live.writes_empty {s : LogSystem} (h : s.Live) {logged : LogSystem × String}
    (hfiles : logged.1.files = s.files) (hshown : logged.2 = "") :
    ∀ x ∈ s.handlers, x.Writes "" s logged := by
  intro x hx
  cases x with
  | console l colors => exact hshown
  | file l place =>
    obtain ⟨content, hcontent⟩ := h l place hx
    have hnothing : Utf8.encode "" = [] := by decide +kernel
    exact ⟨content, hcontent, by rw [hfiles, hcontent, hnothing, List.append_nil]⟩

/-- Each handler that a setup has installed writes the line of a record of at least its level. -/
theorem writes_of_setup {settings : Settings} {a : LogSetup} {least level : Level}
    {t t' : FileTree} {handlers : List Handler} {fault : Option LogFault}
    (hfile : FileHandlers settings a least t handlers t' fault) {s : LogSystem} (hlive : s.Live)
    (hhandlers : s.handlers = a.consoleHandlers settings least ++ handlers) (h : least ≤ level)
    (r : Record) (loggers : Loggers) :
    ∀ x ∈ s.handlers, x.Writes (x.emit r).1 s
      (⟨loggers, s.handlers, (deliver level s.handlers r s.files).2⟩,
        (deliver level s.handlers r s.files).1) := by
  intro x hx
  obtain hconsole | ⟨colors, hconsole⟩ := consoleHandlers_eq_nil_or settings a least <;>
    obtain rfl | ⟨place, rfl⟩ := hfile.eq_nil_or <;>
    rw [hconsole] at hhandlers
  · simp [hhandlers] at hx
  · obtain rfl : x = .file least place := by simpa [hhandlers] using hx
    obtain ⟨content, hcontent⟩ := hlive least place hx
    refine ⟨content, hcontent, ?_⟩
    simp [hhandlers, deliver_file, h, deliver_nil, FileTree.find?_addTo hcontent]
  · obtain rfl : x = .console least colors := by simpa [hhandlers] using hx
    simp [hhandlers, deliver_console, h, deliver_nil, Handler.Writes]
  · have hx' : x = .console least colors ∨ x = .file least place := by
      simpa [hhandlers] using hx
    rcases hx' with rfl | rfl
    · simp [hhandlers, deliver_console, deliver_file, h, deliver_nil, Handler.Writes]
    · obtain ⟨content, hcontent⟩ := hlive least place hx
      refine ⟨content, hcontent, ?_⟩
      simp [hhandlers, deliver_console, deliver_file, h, deliver_nil, FileTree.find?_addTo hcontent]

/-- **Each handler writes each record once, or not at all.** After a setup with a level, and steps
of which none is another such setup, the handlers are still those that it installed, at its level.
Something of positive level that is logged then is written once by each of them, as one line at the
end, if it has both the level of its logger and that of the setup, and otherwise by none; nothing
else is shown, and no other file changes. So below the level of the setup nothing is written,
whatever levels the loggers have. The level of a logger is its own, or that of the nearest known
logger above it that has one, or that of the root logger. -/
theorem records_written {settings : Settings} (files : FileTree) (before later : List LogStep)
    {a : LogSetup} {least : Level} (hleast : a.level? settings = some least)
    (hlater : ∀ x ∈ later, x.level? settings = none) (name : String) {level : Level}
    (hlevel : 0 < level) (message : String) (created : Int) :
    let called := ((initial files).after settings before).setup settings a
    let s := (initial files).after settings (before ++ .setup a :: later)
    let logged := s.log name level message created
    let r : Record := ⟨Loggers.shownName name, level.label, message, created⟩
    s.handlers = called.1.handlers ∧
      (∀ x ∈ s.handlers, x.level = least ∧
        x.Writes (if s.loggers.effective name ≤ level ∧ least ≤ level then (x.emit r).1 else "")
          s logged ∧
        ∀ time, Timestamp.text? created = .ok time → (x.emit r).1 =
          time ++ " - " ++ r.logger ++ " - " ++
            (if x.colors then Record.colored r.levelName else r.levelName) ++ " - " ++ message ++
            "\n") ∧
      ((∀ l colors, .console l colors ∉ s.handlers) → logged.2 = "") ∧
      (∀ place, (∀ l, .file l place ∉ s.handlers) →
        logged.1.files.find? place = s.files.find? place) ∧
      (level < least → logged.1.files = s.files ∧ logged.2 = "") ∧
      s.loggers.effective name =
        Level.first (s.loggers.levelsAlong name (s.loggers.above name)) ∧
      (¬ ['.', '.'] <:+: name.toList → s.loggers.effective name =
        Level.first (s.loggers.levelsAlong name (Loggers.ancestors name))) := by
  intro called s logged r
  have hs : s = called.1.after settings later := after_append settings _ before (.setup a :: later)
  have hlive : s.Live := live_after (live_initial files) settings _
  have hhandlers : s.handlers = called.1.handlers := by rw [hs]; exact handlers_after hlater _
  obtain ⟨handlers, t', fault, hfile, hsetup⟩ :=
    setup_of_level hleast ((initial files).after settings before)
  have hinstalled : s.handlers = a.consoleHandlers settings least ++ handlers := by
    rw [hhandlers, show called.1 = _ from congrArg Prod.fst hsetup]
  have hlevels : ∀ x ∈ s.handlers, x.level = least := hinstalled ▸ (handlers_of_setup hfile).1
  have hnothing (h : ¬ (s.loggers.effective name ≤ level ∧ least ≤ level)) :
      logged.1.files = s.files ∧ logged.2 = "" := by
    have hbelow : level < least ∨ level < s.loggers.effective name :=
      (Decidable.not_and_iff_or_not.1 h).symm.imp Int.not_le.1 Int.not_le.1
    exact log_of_below s name (fun x hx => by rwa [hlevels x hx]) hlevel message created
  have hwrites : ∀ x ∈ s.handlers, x.Writes
      (if s.loggers.effective name ≤ level ∧ least ≤ level then (x.emit r).1 else "") s logged := by
    split
    · next h =>
      have hlogged : logged = _ := log_eq s name hlevel message created
      rw [hlogged, if_pos h.1]
      exact writes_of_setup hfile hlive hinstalled h.2 r _
    · next h => exact hlive.writes_empty (hnothing h).1 (hnothing h).2
  exact ⟨hhandlers,
    fun x hx => ⟨hlevels x hx, hwrites x hx, fun time htime => Handler.emit_line htime x⟩,
    shown_log_of_noConsole s name level message created,
    fun place => find?_log_of_notMem s name level message created,
    fun h => hnothing fun hle => Int.not_le.2 h hle.2,
    Loggers.effective_eq _ name, Loggers.effective_eq_ancestors _⟩

/-- A logger that is set below the level of the setup is heard from that level on. -/
theorem records_written_override :
    let settings := Settings.ofEnvironment []
    let before := [LogStep.getLogger "app" (some (.name "critical"))]
    let later := [LogStep.getLogger "app" (some (.name "debug"))]
    let s := (initial (.ofHome ["work"])).after settings (before ++ .setup infoSetup :: later)
    let r : Record := ⟨Loggers.shownName "app.x", Level.label 30, "m", 0⟩
    infoSetup.level? settings = some 20 ∧ (∀ x ∈ later, x.level? settings = none) ∧
      s.handlers = [.console 20 true, .file 20 ["work", "logs", "a.log"]] ∧
      s.loggers.effective "app.x" = 10 ∧
      (∀ x ∈ s.handlers, x.Writes (x.emit r).1 s (s.log "app.x" 30 "m" 0)) ∧
      (s.log "app.x" 15 "m" 0).1.files = s.files ∧ (s.log "app.x" 15 "m" 0).2 = "" := by
  intro settings before later
  have hlevel : infoSetup.level? settings = some 20 := by decide
  have hlater : ∀ x ∈ later, x.level? settings = none := by
    intro x hx
    cases List.mem_singleton.1 hx
    rfl
  have h30 := records_written (.ofHome ["work"]) before later hlevel hlater "app.x"
    (by decide : (0 : Level) < 30) "m" 0
  have h15 := records_written (.ofHome ["work"]) before later hlevel hlater "app.x"
    (by decide : (0 : Level) < 15) "m" 0
  have heffective : ((initial (.ofHome ["work"])).after settings
      (before ++ .setup infoSetup :: later)).loggers.effective "app.x" = 10 := by decide
  -- The names of the statements stand for the same terms once they are gone.
  simp only at h30 h15 ⊢
  refine ⟨hlevel, hlater, by decide, heffective, fun x hx => ?_, h15.2.2.2.2.1 (by decide)⟩
  have hx' := (h30.2.1 x hx).2.1
  rwa [heffective, if_pos (by decide)] at hx'

end LogSystem

end QueryBook
