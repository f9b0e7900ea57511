import QueryBook.Proofs.Sql.Covered

/-!
# Parts of statements

The parts of a statement are read as their lexemes (`Written`) if those of its pieces are and if
something stands between the pieces that makes no keyword with a neighbour: a word of the grammar or
punctuation (`Divides`). Parts that begin so can stand behind any others (`Segment`). The parts of
an expression begin with a lexeme that no clause begins with and do not end with a comma (`Phrase`).
-/

namespace QueryBook.Sql

open Text Lexer Layout
open Lexeme (kw Spaced)

variable {d : Dialect} {p : Part} {ps qs : List Part} {rest : List Char}

/-- Punctuation that stands directly behind what is before it. -/
def Layout.joints : List Part :=
  [.joined "(", .joined ")", .joined ","]

/-- Parts that are read as their lexemes wherever a text goes on behind them. -/
structure Written (d : Dialect) (ps : List Part) : Prop where
  laid : ∀ rest, stops rest = true → Laid d ps rest
  /-- What stands before the first part ends there. -/
  joint : ∀ p ∈ ps.head?, p.gap = true ∨ p ∈ joints
  spaced : Spaced (lexemes ps)
  printed : ∀ l ∈ lexemes ps, l.isPrinted = true ∧ l.isTame = true

/-- A part of one lexeme that makes no keyword with its neighbours. -/
structure Divides (d : Dialect) (p : Part) : Prop where
  written : Written d [p]
  lexeme : ∃ l, p.lexemes = [l] ∧ l.opens = false ∧ l.closes = false

/-- Parts that can stand behind any others. -/
structure Segment (d : Dialect) (ps : List Part) : Prop where
  written : Written d ps
  apart : ∀ l ∈ (lexemes ps).head?, l.closes = false

theorem stops_chars (hp : ∀ p ∈ ps.head?, p.gap = true ∨ p ∈ joints) (hrest : stops rest = true) :
    stops (chars d ps ++ rest) = true := by
  rcases ps with _ | ⟨⟨gap, m⟩, ps⟩
  · exact hrest
  · rcases hp _ rfl with hgap | hjoint
    · obtain rfl : gap = true := hgap
      rfl
    · simp only [joints, Part.joined, List.mem_cons, Part.mk.injEq, List.not_mem_nil, or_false]
        at hjoint
      rcases hjoint with ⟨rfl, rfl⟩ | ⟨rfl, rfl⟩ | ⟨rfl, rfl⟩ <;> rfl

/-! ## Parts in a row -/

namespace Written

theorem nil : Written d [] :=
  ⟨fun _ _ => .nil, nofun, .nil, nofun⟩

theorem tame (h : Written d ps) : ∀ l ∈ lexemes ps, l.isTame = true :=
  fun l hl => (h.printed l hl).2

/-- Parts in a row, if the neighbours where they meet make no keyword. -/
theorem append (h : Written d ps) (h' : Written d qs)
    (hb : ∀ l ∈ (lexemes ps).getLast?, ∀ m ∈ (lexemes qs).head?,
      l.opens = false ∨ m.closes = false) :
    Written d (ps ++ qs) where
  laid rest hrest := (h.laid _ (stops_chars h'.joint hrest)).append (h'.laid rest hrest)
  joint p hp := by
    rw [List.head?_append] at hp
    cases ps with
    | nil => exact h'.joint p hp
    | cons q ps => exact h.joint p hp
  spaced := by
    rw [lexemes_append]
    exact List.isChain_append.mpr ⟨h.spaced, h'.spaced, hb⟩
  printed l hl := by
    rw [lexemes_append, List.mem_append] at hl
    exact hl.elim (h.printed l) (h'.printed l)

theorem append_segment (h : Written d ps) (h' : Segment d qs) : Written d (ps ++ qs) :=
  h.append h'.written fun _ _ m hm => .inr (h'.apart m hm)

end Written

namespace Segment

theorem nil : Segment d [] :=
  ⟨.nil, nofun⟩

theorem append (h : Segment d ps) (h' : Segment d qs) : Segment d (ps ++ qs) where
  written := h.written.append_segment h'
  apart l hl := by
    rw [lexemes_append, List.head?_append] at hl
    cases hps : (lexemes ps).head? with
    | none => exact h'.apart l (by simpa [hps] using hl)
    | some m => exact h.apart l (by simpa [hps] using hl)

/-- A dividing part before others. -/
theorem cons (hp : Divides d p) (h : Written d ps) : Segment d (p :: ps) := by
  obtain ⟨l, hl, hopens, hcloses⟩ := hp.lexeme
  have hlast : ∀ m ∈ (lexemes [p]).getLast?, m = l := by simp [hl]
  refine ⟨hp.written.append h fun m hm _ _ => .inl (hlast m hm ▸ hopens), fun m hm => ?_⟩
  rw [lexemes_cons, hl] at hm
  cases hm
  exact hcloses

theorem of_divides (hp : Divides d p) : Segment d [p] :=
  cons hp .nil

end Segment

theorem Written.glue (h : Written d ps) (hp : Divides d p) (h' : Written d qs) :
    Written d (ps ++ p :: qs) :=
  h.append_segment (.cons hp h')

/-! ## Single parts -/

/-- One part that is read as one lexeme. -/
theorem Written.one {l : Lexeme} (hl : p.lexemes = [l]) (hgap : p.gap = true ∨ p ∈ joints)
    (hprinted : l.isPrinted = true ∧ l.isTame = true)
    (hlaid : ∀ rest, stops rest = true → Laid d [p] rest) : Written d [p] where
  laid := hlaid
  joint q hq := by
    cases hq
    exact hgap
  spaced := by
    rw [lexemes_cons, hl]
    exact .singleton l
  printed m hm := by
    obtain rfl : m = l := by simpa [hl] using hm
    exact hprinted

section

variable (hd : d ∈ Dialect.all)
include hd

/-- A word of the grammar, before other parts. -/
theorem Written.grammarWord {s : String} (hs : s ∈ Lexeme.grammarWords) :
    Written d [.word s] := by
  have hfacts : ∀ s ∈ Lexeme.grammarWords, (isWord s = true ∨
      (Keyword.phraseWords.lookup s).isSome = true) ∧ (Lexeme.kw s).isTame = true := by
    decide
  obtain ⟨hshape, htame⟩ := hfacts s hs
  have hword := Lexeme.ofWord_grammar s hs
  have hprinted : (Lexeme.ofWord s).isPrinted = true ∧ (Lexeme.ofWord s).isTame = true := by
    rw [hword]
    exact ⟨beq_iff_eq.mpr hword, htame⟩
  refine .one (lexemes_word s) (.inl rfl) hprinted fun rest hrest => ?_
  rcases hshape with hword | hphrase
  · exact laid_word hd hword (pauses_of_stops hrest)
  · obtain ⟨⟨first, second⟩, hphrase⟩ := Option.isSome_iff_exists.mp hphrase
    exact laid_phrase hd hphrase hrest

/-- Every word of the grammar but `WITH` divides. -/
theorem Divides.word {s : String} (hs : s ∈ Lexeme.grammarWords.erase "WITH") :
    Divides d (.word s) where
  written := .grammarWord hd (List.mem_of_mem_erase hs)
  lexeme := by
    have hapart : ∀ s ∈ Lexeme.grammarWords.erase "WITH",
        (Lexeme.kw s).opens = false ∧ (Lexeme.kw s).closes = false := by
      decide
    refine ⟨_, rfl, ?_⟩
    rw [Lexeme.ofWord_grammar s (List.mem_of_mem_erase hs)]
    exact hapart s hs

/-- Words that are no keywords but belong to the grammar. -/
theorem Divides.plainWord {s : String} (hs : s ∈ ["CAST", "TRY_CAST", "TOP", "NULLS", "LAST"]) :
    Divides d (.word s) := by
  have hfacts : ∀ s ∈ ["CAST", "TRY_CAST", "TOP", "NULLS", "LAST"], isWord s = true ∧
      ((Lexeme.ofWord s).isPrinted = true ∧ (Lexeme.ofWord s).isTame = true) ∧
      (Lexeme.ofWord s).opens = false ∧ (Lexeme.ofWord s).closes = false := by
    decide
  obtain ⟨hword, hprinted, hapart⟩ := hfacts s hs
  exact ⟨.one (lexemes_word s) (.inl rfl) hprinted
    fun rest hrest => laid_word hd hword (pauses_of_stops hrest), _, rfl, hapart⟩

omit hd in
theorem Divides.of_symbol {s : String} {gap : Bool} (ht : (Lexeme.symbol s).isTame = true)
    (hgap : gap = true ∨ (⟨gap, .lexeme (.symbol s)⟩ : Part) ∈ joints)
    (hlaid : ∀ rest, stops rest = true → Laid d [⟨gap, .lexeme (.symbol s)⟩] rest) :
    Divides d ⟨gap, .lexeme (.symbol s)⟩ :=
  ⟨.one rfl hgap ⟨rfl, ht⟩ hlaid, _, rfl, rfl, rfl⟩

theorem Divides.symbol {s : String} (hs : s ∈ printedSigns) : Divides d (.symbol s) := by
  have htame : ∀ s ∈ printedSigns, (Lexeme.symbol s).isTame = true := by decide
  exact .of_symbol (htame s hs) (.inl rfl) fun rest hrest => laid_sign hd hs hrest

theorem Divides.comma : Divides d (.joined ",") :=
  .of_symbol (by decide) (.inr (by decide)) fun _ _ => laid_punctuation hd (by decide)

theorem Divides.closing : Divides d (.joined ")") :=
  .of_symbol (by decide) (.inr (by decide)) fun _ _ => laid_punctuation hd (by decide)

/-! ## Lists and parentheses -/

theorem Written.commas {groups : List (List Part)} (h : ∀ ps ∈ groups, Written d ps) :
    Written d (Layout.commas groups) := by
  induction groups with
  | nil => exact .nil
  | cons ps groups ih =>
    obtain ⟨hps, hgroups⟩ := List.forall_mem_cons.mp h
    cases groups with
    | nil => exact hps
    | cons => exact hps.glue (.comma hd) (ih hgroups)

/-- Parts between parentheses. -/
theorem Segment.between (h : Written d ps)
    (hp : p = .symbol "(" ∨ p = .joined "(") : Segment d (Layout.between p ps) := by
  have hopening (rest : List Char) : Laid d [p] rest := by
    rcases hp with rfl | rfl <;> exact laid_punctuation hd (by decide)
  have hdivides : Divides d p := by
    rcases hp with rfl | rfl
    · exact .of_symbol (by decide) (.inl rfl) fun rest _ => hopening rest
    · exact .of_symbol (by decide) (.inr (by decide)) fun rest _ => hopening rest
  have hall : Segment d (p :: (ps ++ [.joined ")"])) := .cons hdivides (h.glue (.closing hd) .nil)
  have hlexemes : lexemes (Layout.between p ps) = lexemes (p :: (ps ++ [.joined ")"])) := by
    simp
  refine ⟨⟨fun rest _ => ?_, hall.written.joint, ?_, ?_⟩, ?_⟩
  -- No space stands behind the opening parenthesis, whatever is between the two.
  · have hclosing : Laid d [.joined ")"] rest := laid_punctuation hd (by decide)
    have hinner : Laid d (tight ps) (chars d [.joined ")"] ++ rest) :=
      Laid.tight_iff.mpr (h.laid _ rfl)
    exact (hopening _).append (hinner.append hclosing)
  · rw [hlexemes]
    exact hall.written.spaced
  · rw [hlexemes]
    exact hall.written.printed
  · rw [hlexemes]
    exact hall.apart

end

/-! ## Names and literals -/

/-- Parts of a name, or of names with points between them: a point can stand behind them too. -/
structure Dotted (d : Dialect) (ps : List Part) : Prop where
  written : Written d ps
  paused : ∀ rest, pauses rest = true → Laid d ps rest

theorem Lexeme.isPrinted_ofWord (s : String) : (Lexeme.ofWord s).isPrinted = true := by
  rcases Lexeme.ofWord_cases s with h | ⟨kind, h⟩ <;> simp [h, Lexeme.isPrinted]

theorem isWord_head {s : String} (hs : isWord s = true) :
    ∃ c cs, s.toList = c :: cs ∧ c.isDigit = false ∧ isWordPart c = true := by
  cases h : s.toList with
  | nil => simp [isWord, h] at hs
  | cons c cs =>
    obtain ⟨⟨hdigit, -⟩, hparts, -⟩ := (isWord_iff h).mp hs
    exact ⟨c, cs, rfl, hdigit, hparts c List.mem_cons_self⟩

theorem Name.parts_plain {s : String} (hs : isWord s = true) :
    (Name.plain s).parts d = [.word s] := by
  obtain ⟨c, cs, hw, hdigit, -⟩ := isWord_head hs
  simp [Name.parts, hw, hdigit]

namespace Name.Writes

variable {n : Name} {l : Lexeme}

theorem asName? (h : n.Writes l) : l.asName? = some n := by
  cases h with
  | plain => exact Lexeme.asName?_ofWord _
  | quoted => rfl

theorem lexemes_parts (h : n.Writes l) : lexemes (n.parts d) = [l] := by
  cases h with
  | plain hs => rw [parts_plain hs]; rfl
  | quoted => rfl

theorem dotted (hd : d ∈ Dialect.all) (h : n.Writes l) : Dotted d (n.parts d) := by
  cases h with
  | @plain s hs ht =>
    rw [parts_plain hs]
    have hlaid (rest : List Char) (hrest : pauses rest = true) : Laid d [.word s] rest :=
      laid_word hd hs hrest
    exact ⟨.one (lexemes_word s) (.inl rfl) ⟨Lexeme.isPrinted_ofWord s, ht⟩
      fun rest hrest => hlaid rest (pauses_of_stops hrest), hlaid⟩
  | @quoted s ht =>
    have hlaid (rest : List Char) (hrest : pauses rest = true) :
        Laid d [⟨true, .lexeme (.quoted s)⟩] rest :=
      laid_quoted hd s hrest
    exact ⟨.one rfl (.inl rfl) ⟨rfl, ht⟩ fun rest hrest => hlaid rest (pauses_of_stops hrest),
      hlaid⟩

end Name.Writes

section

variable (hd : d ∈ Dialect.all)
include hd

/-- A member behind a point. -/
theorem Dotted.field (h : Dotted d ps) (h' : Written d qs) (hps : ps ≠ []) :
    Written d (ps ++ .joined "." :: tight qs) ∧
      ∀ rest, Laid d qs rest → Laid d (ps ++ .joined "." :: tight qs) rest := by
  have hlaid (rest : List Char) (hrest : Laid d qs rest) :
      Laid d (ps ++ .joined "." :: tight qs) rest := by
    have hpoint : Laid d [.joined "."] (chars d (tight qs) ++ rest) :=
      laid_punctuation hd (by decide)
    exact (h.paused _ rfl).append (hpoint.append (Laid.tight_iff.mpr hrest))
  have hdivides : Divides d (.symbol ".") :=
    .of_symbol (by decide) (.inl rfl) fun _ _ => laid_punctuation hd (by decide)
  have hall : Written d (ps ++ .symbol "." :: qs) := h.written.glue hdivides h'
  have hlexemes : lexemes (ps ++ .joined "." :: tight qs) = lexemes (ps ++ .symbol "." :: qs) := by
    simp
  refine ⟨⟨fun rest hrest => hlaid rest (h'.laid rest hrest), fun p hp => ?_, ?_, ?_⟩, hlaid⟩
  · obtain ⟨q, ps, rfl⟩ := List.exists_cons_of_ne_nil hps
    exact h.written.joint p hp
  · rw [hlexemes]
    exact hall.spaced
  · rw [hlexemes]
    exact hall.printed

omit hd in
theorem Written.number {s : String} (hs : isNumeral s = true) (ht : (Lexeme.number s).isTame = true) :
    Written d [⟨true, .lexeme (.number s)⟩] :=
  .one rfl (.inl rfl) ⟨rfl, ht⟩ fun _ hrest => laid_number hs hrest

theorem Written.text (s : String) : Written d [⟨true, .lexeme (.text s)⟩] :=
  .one rfl (.inl rfl) ⟨rfl, rfl⟩ fun _ hrest => laid_text hd s (pauses_of_stops hrest)

theorem Written.placeholder {s : String} (hs : isWord s = true)
    (ht : (Lexeme.ofWord s).isTame = true) (hp : d.placeholder = (":", "")) :
    Written d [⟨true, .placeholder s⟩] := by
  have hlexemes : lexemes [⟨true, .placeholder s⟩] = [.symbol ":", .ofWord s] := rfl
  refine ⟨fun rest hrest => laid_placeholder hd hs hp (pauses_of_stops hrest), fun p hp => ?_, ?_,
    fun l hl => ?_⟩
  · cases hp
    exact .inl rfl
  · rw [hlexemes]
    exact List.isChain_cons_cons.mpr ⟨.inl rfl, .singleton _⟩
  · rw [hlexemes] at hl
    rcases List.mem_cons.mp hl with rfl | hl
    · decide
    · rw [List.mem_singleton.mp hl]
      exact ⟨Lexeme.isPrinted_ofWord s, ht⟩

theorem Written.anonymous (hp : d.anonymous = "?") : Written d [⟨true, .anonymous⟩] :=
  .one rfl (.inl rfl) (by decide) fun _ hrest => laid_anonymous hd hp hrest

end

/-! ## Phrases -/

/-- Words of queries, lists and joins, which begin no expression. -/
def Lexeme.foreignWords : List String :=
  ["WITH", "FROM", "SELECT", "DISTINCT", "ALL", "AS", "ON"]

/-- Signs that begin no expression. -/
def Lexeme.foreignSigns : List String :=
  [")", ".", "<", ">"]

/-- Whether an expression can begin with the lexeme. -/
def Lexeme.beginsExpr (l : Lexeme) : Bool :=
  !(foreignWords.any l.isKeyword || foreignSigns.any l.isSymbol)

/-- A part that an expression can begin with. -/
structure Begins (d : Dialect) (p : Part) : Prop where
  gap : p.gap = true
  lexeme : ∃ l ls, p.lexemes = l :: ls ∧ l.beginsExpr = true
  /-- A minus sign before the part is no comment or arrow. -/
  char : p = .symbol "-" ∨ ∃ c cs, markChars d p.mark = c :: cs ∧ c ≠ '-' ∧ c ≠ '>'

/-- Parts of an expression. -/
structure Phrase (d : Dialect) (ps : List Part) : Prop where
  written : Written d ps
  begins : ∃ p qs, ps = p :: qs ∧ Begins d p
  ends : (lexemes ps).getLast? ≠ some (.symbol ",")

namespace Phrase

theorem ne_nil (h : Phrase d ps) : ps ≠ [] := by
  obtain ⟨p, qs, rfl, -⟩ := h.begins
  exact List.cons_ne_nil _ _

theorem lexemes_ne_nil (h : Phrase d ps) : lexemes ps ≠ [] := by
  obtain ⟨p, qs, rfl, hp⟩ := h.begins
  obtain ⟨l, ls, hl, -⟩ := hp.lexeme
  simp [hl]

theorem head (h : Phrase d ps) : (lexemes ps).head?.any Lexeme.beginsExpr = true := by
  obtain ⟨p, qs, rfl, hp⟩ := h.begins
  obtain ⟨l, ls, hl, hbegins⟩ := hp.lexeme
  simpa [hl] using hbegins

/-- Parts behind a phrase that do not end with a comma. -/
theorem append_segment (h : Phrase d ps) (h' : Segment d qs)
    (hends : (lexemes qs).getLast? ≠ some (.symbol ",")) : Phrase d (ps ++ qs) where
  written := h.written.append_segment h'
  begins := by
    obtain ⟨p, qs', rfl, hp⟩ := h.begins
    exact ⟨p, qs' ++ qs, rfl, hp⟩
  ends := by
    rw [lexemes_append, List.getLast?_append]
    cases hlast : (lexemes qs).getLast? with
    | none => simpa [hlast] using h.ends
    | some l => simpa [hlast] using hends

/-- A part before a phrase or before parts that do not end with a comma. -/
theorem cons (hp : Divides d p) (hb : Begins d p) (h : Written d ps)
    (hends : (lexemes ps).getLast? ≠ some (.symbol ",")) (hps : lexemes ps ≠ []) :
    Phrase d (p :: ps) where
  written := (Segment.cons hp h).written
  begins := ⟨p, ps, rfl, hb⟩
  ends := by
    rw [lexemes_cons, List.getLast?_append]
    cases hlast : (lexemes ps).getLast? with
    | none => exact absurd (List.getLast?_eq_none_iff.mp hlast) hps
    | some l => simpa [hlast] using hends

/-- Phrases with a part between them. -/
theorem glue (h : Phrase d ps) (hp : Divides d p) (h' : Phrase d qs) : Phrase d (ps ++ p :: qs) := by
  refine h.append_segment (.cons hp h'.written) ?_
  rw [lexemes_cons, List.getLast?_append]
  cases hlast : (lexemes qs).getLast? with
  | none => exact absurd (List.getLast?_eq_none_iff.mp hlast) h'.lexemes_ne_nil
  | some l => simpa [hlast] using h'.ends

end Phrase

end QueryBook.Sql
