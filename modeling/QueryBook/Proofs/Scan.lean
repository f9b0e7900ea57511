import QueryBook.Text.Delimited

/-!
# Reading SQL text by quotes and comments

Whether a character of a SQL text is code is decided from left to right with five modes: code,
a string between single quotes in which a doubled quote stands for one, an identifier between
double quotes, a comment from `--` to the end of the line, and a comment between `/*` and `*/`.
`scan` gives each character the mode it is read in; quotes and comment marks belong to what they
delimit. Its equations read one character (`scan_single`) or two at once (`scan_pair`); which of
the two applies depends on the next character, so that a text may be cut only where no pair is
cut in two. `scan_quiet` and `scan_delimited` are the two kinds of text that can be read on their
own inside code.
-/

namespace QueryBook.Scan

open Text

/-- What a character of a SQL text belongs to. -/
inductive Mode where
  | code
  | string
  | identifier
  | line
  | block
  deriving DecidableEq, Repr

/-- Two characters that are read together: the mode they belong to and the mode behind them. -/
def Mode.pair? (m : Mode) (c d : Char) : Option (Mode × Mode) :=
  match m with
  | .code =>
    if c = '-' ∧ d = '-' then some (.line, .line)
    else if c = '/' ∧ d = '*' then some (.block, .block)
    else none
  | .string => if c = '\'' ∧ d = '\'' then some (.string, .string) else none
  | .block => if c = '*' ∧ d = '/' then some (.block, .code) else none
  | .identifier | .line => none

/-- A character that is read alone: the mode it belongs to and the mode behind it. -/
def Mode.single (m : Mode) (c : Char) : Mode × Mode :=
  match m with
  | .code =>
    if c = '\'' then (.string, .string)
    else if c = '"' then (.identifier, .identifier)
    else (.code, .code)
  | .string => (.string, if c = '\'' then .code else .string)
  | .identifier => (.identifier, if c = '"' then .code else .identifier)
  | .line => (.line, if c = '\n' then .code else .line)
  | .block => (.block, .block)

/-- The modes of the characters of a text, and the mode behind it. -/
structure Reading where
  modes : List Mode
  after : Mode

/-- A reading behind characters that were read before. -/
def Reading.prepend (ms : List Mode) (r : Reading) : Reading :=
  ⟨ms ++ r.modes, r.after⟩

/-- The reading of a text that begins in a mode. -/
def scan : Mode → List Char → Reading
  | m, [] => ⟨[], m⟩
  | m, [c] => ⟨[(m.single c).1], (m.single c).2⟩
  | m, c :: d :: cs =>
    match m.pair? c d with
    | some (here, next) => (scan next cs).prepend [here, here]
    | none => (scan (m.single c).2 (d :: cs)).prepend [(m.single c).1]

/-- Every quote and every block comment of a text is closed. -/
def Closed (cs : List Char) : Prop :=
  (scan .code cs).after = .code ∨ (scan .code cs).after = .line

/-- The text between the quotes of a string whose opening quote has been read: the doubled quotes
undoubled, and nothing unless the string ends with the characters given. -/
def stringBody? : List Char → Option (List Char)
  | [] => none
  | c :: cs =>
    if c = '\'' then
      match cs with
      | [] => some []
      | d :: cs => if d = '\'' then (stringBody? cs).map (c :: ·) else none
    else (stringBody? cs).map (c :: ·)

/-- The text that a single complete string stands for. -/
def stringText? : List Char → Option (List Char)
  | [] => none
  | c :: cs => if c = '\'' then stringBody? cs else none

/-! ## Equations of the scan -/

@[simp] theorem prepend_modes (ms : List Mode) (r : Reading) :
    (r.prepend ms).modes = ms ++ r.modes := rfl

@[simp] theorem prepend_after (ms : List Mode) (r : Reading) : (r.prepend ms).after = r.after :=
  rfl

theorem prepend_prepend (ms ns : List Mode) (r : Reading) :
    (r.prepend ns).prepend ms = r.prepend (ms ++ ns) := by
  simp [Reading.prepend]

@[simp] theorem scan_nil (m : Mode) : scan m [] = ⟨[], m⟩ := rfl

theorem scan_cons_cons (m : Mode) (c d : Char) (cs : List Char) :
    scan m (c :: d :: cs) =
      match m.pair? c d with
      | some (here, next) => (scan next cs).prepend [here, here]
      | none => (scan (m.single c).2 (d :: cs)).prepend [(m.single c).1] := rfl

theorem scan_pair {m here next : Mode} {c d : Char} (h : m.pair? c d = some (here, next))
    (cs : List Char) : scan m (c :: d :: cs) = (scan next cs).prepend [here, here] := by
  rw [scan_cons_cons, h]

theorem scan_single {m : Mode} {c : Char} {cs : List Char}
    (h : ∀ d ∈ cs.head?, m.pair? c d = none) :
    scan m (c :: cs) = (scan (m.single c).2 cs).prepend [(m.single c).1] := by
  cases cs with
  | nil => rfl
  | cons d cs => rw [scan_cons_cons, h d rfl]

/-- The two ways to read the first character: together with the next one, or alone. -/
theorem scan_cons (m : Mode) (c : Char) (cs : List Char) :
    (∃ d rest here next, cs = d :: rest ∧ m.pair? c d = some (here, next) ∧
      scan m (c :: cs) = (scan next rest).prepend [here, here]) ∨
    ((∀ d ∈ cs.head?, m.pair? c d = none) ∧
      scan m (c :: cs) = (scan (m.single c).2 cs).prepend [(m.single c).1]) := by
  cases cs with
  | nil => exact .inr ⟨by simp, scan_single (by simp)⟩
  | cons d rest =>
    cases hpair : m.pair? c d with
    | some p => exact .inl ⟨d, rest, p.1, p.2, rfl, hpair, scan_pair hpair rest⟩
    | none =>
      have halone : ∀ e ∈ (d :: rest).head?, m.pair? c e = none := by simp [hpair]
      exact .inr ⟨halone, scan_single halone⟩

/-- Every character has a mode. -/
theorem length_modes (m : Mode) (cs : List Char) : (scan m cs).modes.length = cs.length := by
  fun_induction scan m cs with
  | case1 => rfl
  | case2 => rfl
  | case3 m c d cs here next hpair ih => simp [ih]
  | case4 m c d cs hpair ih => simpa using ih

/-- The modes behind a stretch that was read on its own. -/
theorem getElem?_modes_append {m m' : Mode} {us cs : List Char} {ms : List Mode}
    (h : scan m (us ++ cs) = (scan m' cs).prepend ms) (hlen : ms.length = us.length) (i : Nat) :
    (scan m (us ++ cs)).modes[us.length + i]? = (scan m' cs).modes[i]? := by
  rw [h, prepend_modes, ← hlen, List.getElem?_append_right (Nat.le_add_right _ _),
    Nat.add_sub_cancel_left]

/-! ## Pairs -/

/-- No pair of characters is code. -/
theorem pair?_ne_code {m next : Mode} {c d : Char} : m.pair? c d ≠ some (.code, next) := by
  cases m with
  | code =>
    simp only [Mode.pair?]
    split
    · simp
    · split <;> simp
  | string | block => simp only [Mode.pair?]; split <;> simp
  | identifier | line => simp [Mode.pair?]

/-- Only a dash, a star, a quote and a slash are read together with the character before. -/
theorem pair?_eq_none {m : Mode} {c d : Char} (hdash : c = '-' → d ≠ '-') (hstar : d ≠ '*')
    (hquote : c = '\'' → d ≠ '\'') (hslash : d ≠ '/') : m.pair? c d = none := by
  cases m <;> simp only [Mode.pair?] <;> grind

/-- A colon is never the second of two characters read together. -/
theorem pair?_colon (m : Mode) (c : Char) : m.pair? c ':' = none :=
  pair?_eq_none (fun _ => by decide) (by decide) (fun _ => by decide) (by decide)

theorem single_eq_code {m : Mode} {c : Char} (h : (m.single c).1 = .code) : m = .code := by
  cases m <;> simp_all [Mode.single]

/-- A character is read in code only behind code. -/
theorem eq_code_of_head {m : Mode} {cs : List Char}
    (h : (scan m cs).modes[0]? = some .code) : m = .code := by
  cases cs with
  | nil => simp at h
  | cons c cs =>
    rcases scan_cons m c cs with ⟨d, rest, here, next, -, hpair, hscan⟩ | ⟨-, hscan⟩
    · rw [hscan] at h
      simp only [prepend_modes, List.cons_append, List.getElem?_cons_zero, Option.some.injEq] at h
      exact absurd (h ▸ hpair) pair?_ne_code
    · rw [hscan] at h
      simp only [prepend_modes, List.cons_append, List.getElem?_cons_zero, Option.some.injEq] at h
      exact single_eq_code h

/-! ## Text that stays code -/

/-- A text that is code wherever code goes on: no quote, no slash, and no dash but before a
character of the text that is no dash. -/
def Quiet : List Char → Prop
  | [] => True
  | c :: cs =>
    c ≠ '\'' ∧ c ≠ '"' ∧ c ≠ '/' ∧ (c = '-' → ∃ d, cs.head? = some d ∧ d ≠ '-') ∧ Quiet cs

theorem quiet_append {us cs : List Char} (hu : Quiet us) (hc : Quiet cs) : Quiet (us ++ cs) := by
  induction us with
  | nil => exact hc
  | cons u us ih =>
    obtain ⟨h1, h2, h3, hdash, hrest⟩ := hu
    refine ⟨h1, h2, h3, fun hu => ?_, ih hrest⟩
    obtain ⟨d, hd, hne⟩ := hdash hu
    exact ⟨d, by rw [List.append_eq, List.head?_append, hd]; rfl, hne⟩

/-- A text without quotes, slashes and dashes is quiet. -/
theorem quiet_of_forall {cs : List Char}
    (h : ∀ c ∈ cs, c ≠ '\'' ∧ c ≠ '"' ∧ c ≠ '/' ∧ c ≠ '-') : Quiet cs := by
  induction cs with
  | nil => trivial
  | cons c cs ih =>
    obtain ⟨h1, h2, h3, h4⟩ := h c List.mem_cons_self
    exact ⟨h1, h2, h3, fun hc => absurd hc h4, ih fun d hd => h d (List.mem_cons_of_mem c hd)⟩

/-- Quiet text is read in code, whatever follows it. -/
theorem scan_quiet {us : List Char} (h : Quiet us) (cs : List Char) :
    scan .code (us ++ cs) = (scan .code cs).prepend (us.map fun _ => .code) := by
  induction us with
  | nil => rfl
  | cons u us ih =>
    obtain ⟨h1, h2, h3, hdash, hrest⟩ := h
    have halone : ∀ d ∈ (us ++ cs).head?, Mode.code.pair? u d = none := by
      intro d hd
      have hne : ¬ (u = '-' ∧ d = '-') := by
        rintro ⟨hu, rfl⟩
        obtain ⟨e, he, hne⟩ := hdash hu
        rw [List.head?_append, he] at hd
        exact hne (Option.some.inj hd)
      simp [Mode.pair?, hne, h3]
    have hsingle : Mode.code.single u = (.code, .code) := by simp [Mode.single, h1, h2]
    rw [List.cons_append, scan_single halone, hsingle, ih hrest, prepend_prepend]
    rfl

/-! ## Strings -/

theorem scan_doubled (v : List Char) {cs : List Char} (h : cs.head? ≠ some '\'') :
    scan .string (doubled '\'' v ++ '\'' :: cs) =
      (scan .code cs).prepend ((doubled '\'' v ++ ['\'']).map fun _ => .string) := by
  induction v with
  | nil =>
    have halone : ∀ d ∈ cs.head?, Mode.string.pair? '\'' d = none := by
      rintro d hd
      have hne : d ≠ '\'' := fun hd' => h (hd' ▸ hd)
      simp [Mode.pair?, hne]
    exact scan_single halone
  | cons c v ih =>
    by_cases hc : c = '\''
    · subst hc
      have hpair : Mode.string.pair? '\'' '\'' = some (.string, .string) := rfl
      simp only [doubled, if_true, List.cons_append]
      rw [scan_pair hpair, ih, prepend_prepend]
      rfl
    · have halone : ∀ d ∈ (doubled '\'' v ++ '\'' :: cs).head?, Mode.string.pair? c d = none := by
        simp [Mode.pair?, hc]
      have hsingle : Mode.string.single c = (.string, .string) := by simp [Mode.single, hc]
      simp only [doubled, hc, if_false, List.cons_append]
      rw [scan_single halone, hsingle, ih, prepend_prepend]
      rfl

/-- A delimited text in code is one string that ends with its own quote, unless another quote
follows. -/
theorem scan_delimited (v : List Char) {cs : List Char} (h : cs.head? ≠ some '\'') :
    scan .code (delimited '\'' '\'' v ++ cs) =
      (scan .code cs).prepend ((delimited '\'' '\'' v).map fun _ => .string) := by
  have halone : ∀ d ∈ (doubled '\'' v ++ '\'' :: cs).head?, Mode.code.pair? '\'' d = none := by
    simp [Mode.pair?]
  have hsingle : Mode.code.single '\'' = (.string, .string) := rfl
  have htext : delimited '\'' '\'' v ++ cs = '\'' :: (doubled '\'' v ++ '\'' :: cs) := by
    simp [delimited]
  rw [htext, scan_single halone, hsingle, scan_doubled v h, prepend_prepend]
  rfl

/-- A delimited text stands for the text it delimits. -/
theorem stringText?_delimited (v : List Char) : stringText? (delimited '\'' '\'' v) = some v := by
  show stringBody? (doubled '\'' v ++ ['\'']) = some v
  induction v with
  | nil => rfl
  | cons c v ih =>
    by_cases hc : c = '\''
    · simp [doubled, hc, stringBody?, ih]
    · simp only [doubled, hc, if_false, List.cons_append]
      unfold stringBody?
      rw [if_neg hc, ih]; rfl

/-! ## Dashes -/

/-- A character that is read in code behind a dash is no dash. -/
theorem ne_dash_of_code_behind_dash {d : Char} {cs : List Char} : ∀ (us : List Char) {m : Mode},
    (scan m (us ++ '-' :: d :: cs)).modes[us.length + 1]? = some .code → d ≠ '-'
  | [], m, h => by
    rcases scan_cons m '-' (d :: cs) with ⟨e, rest, here, next, heq, hpair, hscan⟩ | ⟨halone, hscan⟩
    · rw [List.nil_append, hscan] at h
      simp only [prepend_modes, List.length_nil, List.cons_append, List.getElem?_cons_succ,
        List.getElem?_cons_zero, Option.some.injEq] at h
      exact absurd (h ▸ hpair) pair?_ne_code
    · rw [List.nil_append, hscan] at h
      have hmode : (m.single '-').2 = .code := eq_code_of_head h
      have hm : m = .code := by cases m <;> simp_all [Mode.single]
      have hpair := halone d rfl
      rintro rfl
      rw [hm] at hpair
      cases hpair
  | u :: us, m, h => by
    rcases scan_cons m u (us ++ '-' :: d :: cs) with
      ⟨e, rest, here, next, heq, hpair, hscan⟩ | ⟨-, hscan⟩
    · rw [List.cons_append, hscan] at h
      cases us with
      | nil =>
        obtain ⟨rfl, rfl⟩ := List.cons.inj heq
        have hnext : next = .code := eq_code_of_head h
        -- A pair whose second character is a dash opens a comment.
        have : m.pair? u '-' ≠ some (here, .code) := by
          cases m <;> simp [Mode.pair?]
        exact absurd (hnext ▸ hpair) this
      | cons u' us =>
        obtain ⟨rfl, rfl⟩ := List.cons.inj heq
        exact ne_dash_of_code_behind_dash us h
    · rw [List.cons_append, hscan] at h
      exact ne_dash_of_code_behind_dash us h
  termination_by us => us.length

end QueryBook.Scan
