import QueryBook.Log.System

/-!
# Lines of records

A line is cut at the names of its level: the texts between them do not depend on that name
(`Record.around`), so a colored line is the plain one with the marked name in each of these places
(`line_eq`, `line_named`). Whether or not a line can be made, the record is the same behind it
(`format_record`), and so every handler gets the record that the first one got (`emit_record`).
-/

namespace QueryBook

namespace Record

/-- The record with another name for its level. -/
def named (r : Record) (name : String) : Record :=
  { r with levelName := name }

/-- The texts of a line before, between and after the names of the level: the first one, and the
others. -/
def around (r : Record) : RecordLayout → Except Timestamp.Fault (String × List String)
  | [] => .ok ("", [])
  | .level :: ps => do
    let (first, others) ← r.around ps
    return ("", first :: others)
  | p :: ps => do
    let text ← r.piece p
    let (first, others) ← r.around ps
    return (text ++ first, others)

/-- A line is made of the texts around its level with the name of the level between them. -/
theorem line_eq (r : Record) (layout : RecordLayout) :
    r.line layout = (r.around layout).map fun t => r.levelName.intercalate (t.1 :: t.2) := by
  induction layout with
  | nil => simp [line, around, Except.map]
  | cons p ps ih =>
    rw [line, ih]
    cases p with
    | level =>
      cases hps : r.around ps <;>
        simp [around, piece, hps, bind, Except.bind, pure, Except.pure, Except.map]
    | time =>
      cases htime : Timestamp.text? r.created <;> cases hps : r.around ps <;>
        simp [around, piece, htime, hps, bind, Except.bind, pure, Except.pure, Except.map]
    | _ =>
      cases hps : r.around ps <;>
        simp [around, piece, hps, bind, Except.bind, pure, Except.pure, Except.map]

/-- The texts around the level do not depend on its name. -/
theorem around_named (r : Record) (name : String) (layout : RecordLayout) :
    (r.named name).around layout = r.around layout := by
  induction layout with
  | nil => rfl
  | cons p ps ih =>
    cases p with
    | level => simp only [around, ih]
    | _ => simp only [around, ih]; rfl

/-- Plain and colored lines differ only in the name of the level, wherever the layout shows it. -/
theorem line_named (r : Record) (layout : RecordLayout) :
    (∃ fault, ∀ name, (r.named name).line layout = .error fault ∧
        ((r.named name).format layout true).1 = .error fault) ∨
      ∃ first others, ∀ name,
        (r.named name).line layout = .ok (name.intercalate (first :: others)) ∧
          ((r.named name).format layout true).1 =
            .ok ((colored name).intercalate (first :: others)) := by
  have hline (name : String) : (r.named name).line layout =
      (r.around layout).map fun t => name.intercalate (t.1 :: t.2) := by
    rw [line_eq, around_named]
    rfl
  have hformat (name : String) : ((r.named name).format layout true).1 =
      (r.named (colored name)).line layout := rfl
  simp only [hformat, hline]
  cases r.around layout with
  | error fault => exact .inl ⟨fault, fun name => ⟨rfl, rfl⟩⟩
  | ok texts => exact .inr ⟨texts.1, texts.2, fun name => ⟨rfl, rfl⟩⟩

/-- A record keeps the name of its level, with or without colors and also if no line can be made. -/
theorem format_record (layout : RecordLayout) (colors : Bool) (r : Record) :
    (r.format layout colors).2 = r := by
  cases colors <;> rfl

/-! ## Marked names -/

/-- A name with a color is put between its code and the code that switches back. -/
theorem colored_of_code {name code : String} (h : (name, code) ∈ colorCodes) :
    colored name = "\x1b[" ++ code ++ "m" ++ name ++ "\x1b[0m" := by
  simp only [colorCodes, List.mem_cons, Prod.mk.injEq, List.not_mem_nil, or_false] at h
  rcases h with ⟨rfl, rfl⟩ | ⟨rfl, rfl⟩ | ⟨rfl, rfl⟩ | ⟨rfl, rfl⟩ | ⟨rfl, rfl⟩ <;> rfl

theorem colored_of_notMem {name : String} (h : name ∉ colorCodes.map (·.1)) :
    colored name = name := by
  have hlookup : colorCodes.lookup name = none := by
    rw [List.lookup_eq_none_iff]
    intro e he
    rw [bne_iff_ne]
    rintro rfl
    exact h (List.mem_map_of_mem he)
  rw [colored, hlookup]

end Record

/-! ## What handlers write -/

namespace Handler

/-- The next handler gets the record as this one got it. -/
@[simp] theorem emit_record (h : Handler) (r : Record) : (h.emit r).2 = r := by
  have hformat := r.format_record .full h.colors
  rw [emit]
  split <;> next hline => rwa [hline] at hformat

/-- The line of a record whose time has a text. -/
theorem emit_line {r : Record} {time : String} (htime : Timestamp.text? r.created = .ok time)
    (h : Handler) : (h.emit r).1 =
      time ++ " - " ++ r.logger ++ " - " ++
        (if h.colors then Record.colored r.levelName else r.levelName) ++ " - " ++ r.message ++
        "\n" := by
  have hfull (name : String) : (r.named name).line .full =
      .ok (time ++ " - " ++ r.logger ++ " - " ++ name ++ " - " ++ r.message) := by
    simp [Record.line, RecordLayout.full, Record.piece, Record.named, htime, bind, Except.bind,
      pure, Except.pure, String.append_assoc]
  have hformat : (r.format .full h.colors).1 = (r.named
      (if h.colors then Record.colored r.levelName else r.levelName)).line .full := by
    cases h.colors <;> rfl
  rw [hfull] at hformat
  rw [emit]
  split
  · next hline =>
    rw [hline] at hformat
    cases hformat
    rfl
  · next hline =>
    rw [hline] at hformat
    cases hformat

end Handler

namespace LogSystem

section

variable (level l : Level) (hs : List Handler) (r : Record) (files : FileTree)

theorem deliver_nil : deliver level [] r files = ("", files) := rfl

/-- A console handler shows its line before those of the handlers behind it. -/
theorem deliver_console (colors : Bool) : deliver level (.console l colors :: hs) r files =
    if l ≤ level then
      (((Handler.console l colors).emit r).1 ++ (deliver level hs r files).1,
        (deliver level hs r files).2)
    else deliver level hs r files := by
  have hpass : deliver level (.console l colors :: hs) r files =
      if l ≤ level then
        (((Handler.console l colors).emit r).1 ++
            (deliver level hs ((Handler.console l colors).emit r).2 files).1,
          (deliver level hs ((Handler.console l colors).emit r).2 files).2)
      else deliver level hs r files := rfl
  rw [hpass, Handler.emit_record]

/-- A file handler adds its line to its file before the handlers behind it write. -/
theorem deliver_file (place : Location) : deliver level (.file l place :: hs) r files =
    if l ≤ level then
      deliver level hs r (files.addTo place (Utf8.encode ((Handler.file l place).emit r).1))
    else deliver level hs r files := by
  have hpass : deliver level (.file l place :: hs) r files =
      if l ≤ level then
        deliver level hs ((Handler.file l place).emit r).2
          (files.addTo place (Utf8.encode ((Handler.file l place).emit r).1))
      else deliver level hs r files := rfl
  rw [hpass, Handler.emit_record]

end

end LogSystem

end QueryBook
