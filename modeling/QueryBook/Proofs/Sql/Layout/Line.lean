import Mathlib.Data.Bool.AllAny
import QueryBook.Proofs.Sql.Quoted

/-!
# Cutting lines into lexemes

What is cut off a text depends on what follows it, so `Lexer.Cuts` has the rest of the text with it.
A word, a number or a quoted text on a printed line is followed by a blank or by punctuation that
belongs to nothing else (`stops`), and is cut off as it was written.
-/

namespace QueryBook

/-- The dialects that are described. -/
def Dialect.all : List Dialect :=
  described.map Prod.snd

namespace Sql

open Text

namespace Lexer

variable {d : Dialect} {c : Char} {cs rest mid : List Char} {ls ms : List Scanned}

/-! ## Cuts -/

/-- From the front of a text, parts are cut off up to the rest. -/
inductive Cuts (d : Dialect) : List Char → List Scanned → List Char → Prop
  | done (rest : List Char) : Cuts d rest [] rest
  | space {cs rest : List Char} {ls : List Scanned} (h : Cuts d cs ls rest) :
    Cuts d (' ' :: cs) ls rest
  | next {c : Char} {cs mid rest : List Char} {part : Scanned} {ls : List Scanned}
    (hc : isBlank c = false) (hn : Lexer.next d c cs = some (part, mid))
    (hlen : mid.length ≤ cs.length) (h : Cuts d mid ls rest) : Cuts d (c :: cs) (part :: ls) rest

namespace Cuts

theorem append (h : Cuts d cs ls mid) (h' : Cuts d mid ms rest) : Cuts d cs (ls ++ ms) rest := by
  induction h with
  | done => exact h'
  | space _ ih => exact .space (ih h')
  | next hc hn hlen _ ih => exact .next hc hn hlen (ih h')

/-- One part. -/
theorem one {part : Scanned} (hc : isBlank c = false) (hn : Lexer.next d c cs = some (part, rest))
    (hlen : rest.length ≤ cs.length) : Cuts d (c :: cs) [part] rest :=
  .next hc hn hlen (.done rest)

theorem not_endsLine (hc : isBlank c = false) : endsLine c = false := by
  cases h : endsLine c with
  | false => rfl
  | true =>
    rcases (by simpa [endsLine] using h : c = '\n' ∨ c = '\r') with rfl | rfl <;>
      exact absurd hc (by decide)

/-- A text that is cut up to its end is scanned so. -/
theorem scanUpTo_eq (h : Cuts d cs ls []) {n : Nat} (hn : cs.length ≤ n) :
    scanUpTo d n cs = some ls := by
  generalize hrest : ([] : List Char) = rest at h
  induction h generalizing n with
  | done =>
    subst hrest
    cases n <;> rfl
  | @space cs rest ls _ ih =>
    obtain ⟨n, rfl⟩ := Nat.exists_eq_add_one_of_ne_zero (Nat.ne_of_gt (Nat.lt_of_lt_of_le
      (Nat.zero_lt_succ _) hn))
    have hblank : isBlank ' ' = true := by decide
    have hline : endsLine ' ' = false := by decide
    simp [scanUpTo, hblank, hline, ih (Nat.le_of_succ_le_succ hn) hrest]
  | @next c cs mid rest part ls hc hnext hlen _ ih =>
    obtain ⟨n, rfl⟩ := Nat.exists_eq_add_one_of_ne_zero (Nat.ne_of_gt (Nat.lt_of_lt_of_le
      (Nat.zero_lt_succ _) hn))
    have hmid := ih (Nat.le_trans hlen (Nat.le_of_succ_le_succ hn)) hrest
    simp [scanUpTo, not_endsLine hc, hc, hnext, hmid]

theorem scan_eq (h : Cuts d cs ls []) : scan d cs = some ls :=
  h.scanUpTo_eq (Nat.le_refl _)

end Cuts

/-! ## What stands behind a lexeme -/

/-- The text ends or begins with a character that ends every lexeme. -/
def stops (cs : List Char) : Bool :=
  cs.head?.all [' ', '(', ')', ','].contains

/-- The text begins in this way, or with a point, which ends every name. -/
def pauses (cs : List Char) : Bool :=
  cs.head?.all [' ', '(', ')', ',', '.'].contains

theorem pauses_of_stops (h : stops cs = true) : pauses cs = true := by
  cases cs with
  | nil => rfl
  | cons c cs =>
    have hc : c ∈ [' ', '(', ')', ','] := by simpa [stops] using h
    have hmore : c ∈ [' ', '(', ')', ','] ++ ['.'] := List.mem_append_left _ hc
    simpa [pauses] using hmore

/-- A question about the first character, answered for all that can be there. -/
theorem pauses_any (h : pauses cs = true) {is : Char → Bool}
    (hnot : ∀ c ∈ [' ', '(', ')', ',', '.'], is c = false) : cs.head?.any is = false := by
  cases cs with
  | nil => rfl
  | cons c cs => exact hnot c (by simpa [pauses] using h)

theorem stops_any (h : stops cs = true) {is : Char → Bool}
    (hnot : ∀ c ∈ [' ', '(', ')', ','], is c = false) : cs.head?.any is = false := by
  cases cs with
  | nil => rfl
  | cons c cs => exact hnot c (by simpa [stops] using h)

/-! ## Words and numbers -/

/-- Whether a text is cut off as a single word. -/
def isWord (s : String) : Bool :=
  s.toList.head?.any (fun c => !c.isDigit && c != '$') && s.toList.all isWordPart &&
    Text.upper (String.ofList (s.toList.take hyphenated.length)) != hyphenated

/-- Whether a text is cut off as a single number. -/
def isNumeral (s : String) : Bool :=
  match s.toList with
  | [] => false
  | c :: cs => c.isDigit && number false 0 cs == (cs, [])

theorem ne_of_isWordPart (hc : isWordPart c = true) {p : Char} (hp : p ∈ punctuation) : c ≠ p := by
  rintro rfl
  simp [isWordPart, hp] at hc

theorem isBlank_of_isWordPart (hc : isWordPart c = true) : isBlank c = false := by
  simp only [isWordPart, Bool.and_eq_true, Bool.not_eq_true'] at hc
  exact hc.1

section
variable (hd : d ∈ Dialect.all)
include hd

theorem quotes_of_isWordPart (hc : isWordPart c = true) :
    d.closingNameQuote? c = none ∧ c ∉ d.textQuotes := by
  have h1 : c ≠ '"' := ne_of_isWordPart hc (by decide)
  have h2 : c ≠ '`' := ne_of_isWordPart hc (by decide)
  have h3 : c ≠ '[' := ne_of_isWordPart hc (by decide)
  have h4 : c ≠ '\'' := ne_of_isWordPart hc (by decide)
  simp only [Dialect.all, Dialect.described, List.map_cons, List.map_nil, List.mem_cons,
    List.not_mem_nil, or_false] at hd
  rcases hd with rfl | rfl | rfl | rfl <;>
    simp [Dialect.closingNameQuote?, Dialect.generic, Dialect.postgres, Dialect.mysql, Dialect.tsql,
      List.lookup_cons, List.lookup_nil, beq_eq_false_iff_ne.mpr, h1, h2, h3, h4]
end

theorem markedComment_eq_none (hc : c ≠ '/' ∧ c ≠ '\x7b') : markedComment d (c :: cs) = none := by
  simp [markedComment, commentMarks, List.isPrefixOf, hc.1.symm, hc.2.symm]

theorem longSymbols_heads : ∀ s ∈ longSymbols, s.head?.any punctuation.contains = true := by
  decide

theorem longSymbol_eq_none (hc : c ∉ punctuation) :
    (longSymbols.find? fun s => s.isPrefixOf (c :: cs)) = none := by
  rw [List.find?_eq_none]
  intro s hs hfront
  have hhead := longSymbols_heads s hs
  cases s with
  | nil => simp at hhead
  | cons p s =>
    rw [List.isPrefixOf_cons_cons, Bool.and_eq_true, beq_iff_eq] at hfront
    exact hc (by simpa [hfront.1] using hhead)

theorem isWord_iff {s : String} {w : List Char} (hw : s.toList = c :: w) :
    isWord s = true ↔ (c.isDigit = false ∧ c ≠ '$') ∧ (∀ x ∈ c :: w, isWordPart x = true) ∧
      upper (String.ofList ((c :: w).take hyphenated.length)) ≠ hyphenated := by
  simp [isWord, hw, and_assoc]

/-- The characters behind a word are not in capitals part of a keyword with punctuation. -/
theorem upper_take_ne {w : List Char} (hw : upper (String.ofList (w.take hyphenated.length)) ≠ hyphenated)
    (hcs : pauses cs = true) :
    upper (String.ofList ((w ++ cs).take hyphenated.length)) ≠ hyphenated := by
  by_cases hlen : hyphenated.length ≤ w.length
  · rwa [List.take_append_of_le_length hlen]
  · cases cs with
    | nil => simpa using hw
    | cons p cs =>
      have hp : p ∈ [' ', '(', ')', ',', '.'] := by simpa [pauses] using hcs
      intro heq
      have hmem : p ∈ (w ++ p :: cs).take hyphenated.length := by
        rw [List.take_append, List.mem_append, List.take_cons (by omega)]
        exact .inr List.mem_cons_self
      have hplain : ∀ p ∈ [' ', '(', ')', ',', '.'], capital p = [p] ∧ p ∉ hyphenated.toList :=
        List.all_iff_forall_prop.1 (by decide)
      refine (hplain p hp).2 ?_
      rw [← heq, upper, String.toList_ofList, String.toList_ofList, List.mem_flatMap]
      exact ⟨p, hmem, by simp [(hplain p hp).1]⟩

/-- A run of characters of a kind ends where another one stands. -/
theorem span_append {p : Char → Bool} {w : List Char} (hw : ∀ x ∈ w, p x = true)
    (hcs : cs.head?.any p = false) : (w ++ cs).takeWhile p = w ∧ (w ++ cs).dropWhile p = cs := by
  rw [List.takeWhile_append_of_pos hw, List.dropWhile_append_of_pos hw]
  cases cs with
  | nil => simp
  | cons c cs => simp_all

theorem next_word (hd : d ∈ Dialect.all) {s : String} {w : List Char} (hs : isWord s = true)
    (hw : s.toList = c :: w) (hcs : pauses cs = true) : next d c (w ++ cs) = some (.lexeme (.word s), cs) := by
  obtain ⟨⟨hdigit, hdollar⟩, hparts, hhyphen⟩ := (isWord_iff hw).mp hs
  obtain ⟨hc, hw'⟩ := List.forall_mem_cons.mp hparts
  obtain ⟨hname, htext⟩ := quotes_of_isWordPart hd hc
  have hne (p : Char) (hp : p ∈ punctuation) : c ≠ p := ne_of_isWordPart hc hp
  have hmarked : markedText d c (w ++ cs) = none := by
    have hquote : ∀ mark more, d.textMarks.lookup c = some mark → w ++ cs ≠ '\'' :: more := by
      rintro mark more - heq
      cases w with
      | nil => simp [show cs = _ from heq, pauses] at hcs
      | cons x w =>
        obtain ⟨rfl, -⟩ := List.cons.inj heq
        exact absurd (hw' _ List.mem_cons_self) (by decide)
    -- No string begins here, so the first case of the match is out.
    simp only [markedText, hdollar, if_false]
  have hcomment : markedComment d (c :: (w ++ cs)) = none :=
    markedComment_eq_none ⟨hne '/' (by decide), hne '\x7b' (by decide)⟩
  obtain ⟨htake, hdrop⟩ := span_append hw' (pauses_any hcs (List.all_iff_forall_prop.1 (by decide)))
  have hnot : c ∉ punctuation := fun hp => hne c hp rfl
  have hplain : plain c (w ++ cs) = (.word s, cs) := by
    have hh := upper_take_ne hhyphen hcs
    rw [List.cons_append] at hh
    have hofList : String.ofList (c :: w) = s := by rw [← hw, String.ofList_toList]
    simp [plain, longSymbol_eq_none hnot, hnot, hh, htake, hdrop, hofList]
  simp [next, hdigit, hname, htext, hne '-' (by decide), hne '#' (by decide), hcomment, hmarked, hplain]

theorem number_append {point : Bool} {exponent : Nat} {w : List Char}
    (hw : number point exponent w = (w, [])) (hcs : stops cs = true) :
    number point exponent (w ++ cs) = (w, cs) := by
  induction w generalizing point exponent with
  | nil =>
    cases cs with
    | nil => rfl
    | cons p cs =>
      have hp : p ∈ [' ', '(', ')', ','] := by simpa [stops] using hcs
      have hplain : ∀ p ∈ [' ', '(', ')', ','], p.isDigit = false ∧ p ≠ '.' ∧ p ≠ '-' ∧ p ≠ '+' ∧
          p ≠ 'e' ∧ p ≠ 'E' := List.all_iff_forall_prop.1 (by decide)
      obtain ⟨h1, h2, h3, h4, h5, h6⟩ := hplain p hp
      simp [number, h1, h2, h3, h4, h5, h6]
  | cons x w ih =>
    have hhead : (w ++ cs).head?.any Char.isDigit = w.head?.any Char.isDigit := by
      cases w with
      | nil => exact stops_any hcs (List.all_iff_forall_prop.1 (by decide))
      | cons => rfl
    have hmore {p : Bool} {n : Nat} (h : (x :: (number p n w).1, (number p n w).2) = (x :: w, [])) :
        (x :: (number p n (w ++ cs)).1, (number p n (w ++ cs)).2) = (x :: w, cs) := by
      obtain ⟨h1, h2⟩ : (number p n w).1 = w ∧ (number p n w).2 = [] := by simpa using h
      rw [ih (Prod.ext h1 h2)]
    simp only [number, List.cons_append, hhead] at hw ⊢
    by_cases h1 : x.isDigit = true
    · rw [if_pos h1] at hw ⊢
      exact hmore hw
    rw [if_neg h1] at hw ⊢
    by_cases h2 : x = '.' ∧ point = false
    · rw [if_pos h2] at hw ⊢
      exact hmore hw
    rw [if_neg h2] at hw ⊢
    by_cases h3 : (x = '-' ∨ x = '+') ∧ exponent = 1 ∧ w.head?.any Char.isDigit = true
    · rw [if_pos h3] at hw ⊢
      exact hmore hw
    rw [if_neg h3] at hw ⊢
    by_cases h4 : (x = 'e' ∨ x = 'E') ∧ exponent = 0
    · rw [if_pos h4] at hw ⊢
      exact hmore hw
    · rw [if_neg h4] at hw
      simp at hw

theorem next_number {s : String} {w : List Char} (hs : isNumeral s = true) (hw : s.toList = c :: w)
    (hcs : stops cs = true) : next d c (w ++ cs) = some (.lexeme (.number s), cs) := by
  obtain ⟨hdigit, hnumber⟩ : c.isDigit = true ∧ number false 0 w = (w, []) := by
    simpa [isNumeral, hw] using hs
  have hword : cs.head?.any numeric.startsWord = false :=
    stops_any hcs (List.all_iff_forall_prop.1 (by decide))
  have hofList : String.ofList (c :: w) = s := by rw [← hw, String.ofList_toList]
  simp [next, hdigit, numeric, number_append hnumber hcs, hword, hofList]

/-! ## Quotes -/

theorem ne_of_pauses (hcs : pauses cs = true) {p : Char} (hp : p ∉ [' ', '(', ')', ',', '.']) :
    cs.head? ≠ some p := by
  intro heq
  have hmem : p ∈ [' ', '(', ')', ',', '.'] := by simpa [pauses, heq] using hcs
  exact hp hmem

/-- How a character of a text is written and read in the dialect with escapes. -/
theorem escapedText_char (x : Char) (tail : List Char) (htail : tail ≠ []) :
    escapedText '\'' Dialect.mysql.escapes
        (doubled '\'' (Dialect.mysql.escapeChar x) ++ tail) =
      (escapedText '\'' Dialect.mysql.escapes tail).map fun r => (x :: r.1, r.2) := by
  obtain ⟨y, tail, rfl⟩ := List.exists_cons_of_ne_nil htail
  by_cases hescaped : x ∈ ['\x00', '\x08', '\n', '\r', '\t', '\x1a', '\\']
  · simp only [List.mem_cons, List.not_mem_nil, or_false] at hescaped
    rcases hescaped with rfl | rfl | rfl | rfl | rfl | rfl | rfl <;> rfl
  · have hall : ∀ e ∈ Dialect.mysql.escapes,
        e.2 ∈ ['\x00', '\x08', '\n', '\r', '\t', '\x1a', '\\'] := by decide
    have hnone : Dialect.mysql.escapes.find? (fun e => e.2 == x) = none := by
      rw [List.find?_eq_none]
      intro e he heq
      exact hescaped (beq_iff_eq.mp heq ▸ hall e he)
    have hback : x ≠ '\\' := by
      rintro rfl
      exact hescaped (by decide)
    simp only [Dialect.escapeChar, hnone]
    by_cases hx : x = '\''
    · subst hx
      rfl
    · simp [doubled, escapedText, hx, hback]

/-- The escaped form of a text is read as the text. -/
theorem escapedText_doubled (hcs : cs.head? ≠ some '\'') (content : List Char) :
    escapedText '\'' Dialect.mysql.escapes
      (doubled '\'' (content.flatMap Dialect.mysql.escapeChar) ++ '\'' :: cs) = some (content, cs) := by
  induction content with
  | nil =>
    cases cs with
    | nil => simp [escapedText]
    | cons x cs =>
      have hx : x ≠ '\'' := by simpa using hcs
      simp [escapedText, hx]
  | cons x content ih =>
    rw [List.flatMap_cons, doubled_append, List.append_assoc, escapedText_char _ _ (by simp), ih]
    rfl

section
variable (hd : d ∈ Dialect.all)
include hd

theorem next_quoted (content : List Char) (hcs : pauses cs = true) :
    next d d.nameQuotes.1 (doubled d.nameQuotes.2 content ++ d.nameQuotes.2 :: cs) =
      some (.lexeme (.quoted (String.ofList content)), cs) := by
  have hfacts : ∀ d ∈ Dialect.all, d.nameQuotes.1.isDigit = false ∧
      d.nameQuotes.2 ∉ [' ', '(', ')', ',', '.'] := by decide
  obtain ⟨hdigit, hclose⟩ := hfacts d hd
  have hquote : d.closingNameQuote? d.nameQuotes.1 = some d.nameQuotes.2 :=
    List.lookup_cons_self
  simp [next, hdigit, hquote, quoted_doubled (ne_of_pauses hcs hclose)]

theorem textContent_doubled (content : List Char) (hcs : pauses cs = true) :
    textContent d '\'' (doubled '\'' (content.flatMap d.escapeChar) ++ '\'' :: cs) =
      some (content, cs) := by
  have hquote : cs.head? ≠ some '\'' := ne_of_pauses hcs (by decide)
  have hfacts : ∀ d ∈ Dialect.all, d.escapes = [] ∨ d.escapes = Dialect.mysql.escapes := by decide
  rcases hfacts d hd with hnone | hmysql
  · have hplain : d.escapeChar = fun c => [c] := by
      funext c
      simp [Dialect.escapeChar, hnone]
    have hid : content.flatMap (fun c => [c]) = content := List.flatMap_singleton' content
    rw [hplain, hid, textContent, hnone]
    exact quoted_doubled hquote content
  · have hescape : d.escapeChar = Dialect.mysql.escapeChar := by
      funext c
      simp [Dialect.escapeChar, hmysql]
    rw [hescape, textContent, hmysql]
    exact escapedText_doubled hquote content

theorem next_text (content : List Char) (hcs : pauses cs = true) :
    next d '\'' (doubled '\'' (content.flatMap d.escapeChar) ++ '\'' :: cs) =
      some (.lexeme (.text (String.ofList content)), cs) := by
  have hfacts : ∀ d ∈ Dialect.all, d.closingNameQuote? '\'' = none ∧ '\'' ∈ d.textQuotes := by decide
  obtain ⟨hname, htext⟩ := hfacts d hd
  have hdigit : '\''.isDigit = false := by decide
  simp [next, hdigit, hname, htext, textContent_doubled hd content hcs]

/-- The characters that printed signs begin with. -/
def signChars : List Char :=
  ['=', '<', '>', '+', '-', '%', '&', '|', '^', '*', '/', '?', '(', ')', ',', '.', ':']

theorem next_sign (hc : c ∈ signChars) (hdash : c = '-' → cs.head? ≠ some '-')
    (hslash : c = '/' → cs.head? ≠ some '*') :
    next d c cs = some (.lexeme (plain c cs).1, (plain c cs).2) := by
  have hfacts : ∀ c ∈ signChars, ∀ d ∈ Dialect.all, c.isDigit = false ∧
      d.closingNameQuote? c = none ∧ c ∉ d.textQuotes ∧ c ≠ '#' ∧ c ≠ '$' ∧ c ≠ '\x7b' ∧
        d.textMarks.lookup c = none := List.all_iff_forall_prop.1 (by decide)
  obtain ⟨hdigit, hname, htext, hhash, hdollar, hbrace, hmark⟩ := hfacts c hc d hd
  have hcomment : markedComment d (c :: cs) = none := by
    by_cases hc : c = '/'
    · subst hc
      rcases cs with _ | ⟨x, cs⟩
      · rfl
      · have hx : x ≠ '*' := by simpa using hslash rfl
        simp [markedComment, commentMarks, List.isPrefixOf, hx.symm]
    · exact markedComment_eq_none ⟨hc, hbrace⟩
  have hline : ¬(c = '-' ∧ cs.head? = some '-') := fun h => hdash h.1 h.2
  simp [next, hdigit, hname, htext, hline, hhash, hcomment, markedText, hdollar, hmark]

end

theorem plain_one (hc : c ∈ punctuation) (h : ∀ s ∈ longSymbols, s[0]? = some c → s[1]? ≠ cs.head?) :
    plain c cs = (sign (String.singleton c), cs) := by
  have hnone : (longSymbols.find? fun s => s.isPrefixOf (c :: cs)) = none := by
    rw [List.find?_eq_none]
    have hlong : ∀ s ∈ longSymbols, ∃ a b more, s = a :: b :: more := by
      have : ∀ s ∈ longSymbols, 2 ≤ s.length := by decide
      intro s hs
      rcases s with _ | ⟨a, _ | ⟨b, more⟩⟩
      · exact absurd (this _ hs) (by simp)
      · exact absurd (this _ hs) (by simp)
      · exact ⟨a, b, more, rfl⟩
    intro s hs hfront
    obtain ⟨a, b, more, rfl⟩ := hlong s hs
    rcases cs with _ | ⟨x, cs⟩
    · simp [List.isPrefixOf] at hfront
    · simp only [List.isPrefixOf, Bool.and_eq_true, beq_iff_eq] at hfront
      exact h _ hs (by simp [hfront.1]) (by simp [hfront.2.1])
  simp [plain, hnone, hc]


theorem isBlank_of_isDigit {c : Char} (h : c.isDigit = true) : isBlank c = false := by
  simp only [Char.isDigit, Bool.and_eq_true, decide_eq_true_eq] at h
  have hlow : 48 ≤ c.toNat := h.1
  have hhigh : c.toNat ≤ 57 := h.2
  rw [Bool.eq_false_iff]
  intro hblank
  obtain ⟨r, hr, hlo, hhi⟩ := (CharTable.contains_iff _ _).mp hblank
  have hnot : ∀ r ∈ blanks, r.2 < 48 ∨ 57 < r.1 := by decide
  have := hnot r hr
  omega

/-- The signs of operators, and a placeholder without a name. -/
def printedSigns : List String :=
  ["=", "<>", "<", "<=", ">", ">=", "+", "-", "%", "&", "|", "^", "||", "*", "/", "<->", "?"]

/-- A text that a character stands behind begins with the same signs, if none of them holds it. -/
theorem isPrefixOf_append {sym cs rest : List Char} (h : ∀ x ∈ rest.head?, x ∉ sym) :
    sym.isPrefixOf (cs ++ rest) = sym.isPrefixOf cs := by
  induction sym generalizing cs with
  | nil => simp
  | cons a sym ih =>
    have hmore : ∀ x ∈ rest.head?, x ∉ sym := fun x hx hmem => h x hx (List.mem_cons_of_mem a hmem)
    cases cs with
    | cons c cs => simp [List.isPrefixOf, ih hmore]
    | nil =>
      cases rest with
      | nil => rfl
      | cons x rest =>
        have hx : a ≠ x := fun heq => h x rfl (by simp [heq])
        simp [List.isPrefixOf, hx]

theorem find?_congr {α : Type} {is is' : α → Bool} {as : List α} (h : ∀ a ∈ as, is a = is' a) :
    as.find? is = as.find? is' := by
  induction as with
  | nil => rfl
  | cons a as ih =>
    obtain ⟨ha, has⟩ := List.forall_mem_cons.mp h
    rw [List.find?_cons, List.find?_cons, ha, ih has]

theorem plain_sign {s : String} (hs : s ∈ printedSigns) (hrest : stops rest = true) :
    ∃ c w, s.toList = c :: w ∧ c ∈ signChars ∧ (c = '-' ∨ c = '/' → w = []) ∧
      plain c (w ++ rest) = (.symbol s, rest) := by
  have hfacts : ∀ s ∈ printedSigns, s.toList.head?.any signChars.contains = true ∧ sign s = .symbol s ∧
      (s.toList.head? = some '-' ∨ s.toList.head? = some '/' → s.toList.length = 1) ∧
      (longSymbols.find? (·.isPrefixOf s.toList) = some s.toList ∨
        longSymbols.find? (·.isPrefixOf s.toList) = none ∧ s.toList.length = 1) := by
    decide
  obtain ⟨hhead, hsign, hshort, hfind⟩ := hfacts s hs
  obtain ⟨c, w, hw⟩ : ∃ c w, s.toList = c :: w := by
    cases h : s.toList with
    | nil => simp [h] at hhead
    | cons c w => exact ⟨c, w, rfl⟩
  have hc : c ∈ signChars := by simpa [hw] using hhead
  have hpunctuation : ∀ c ∈ signChars, c ∈ punctuation := List.all_iff_forall_prop.1 (by decide)
  have hofList : String.ofList (c :: w) = s := by rw [← hw, String.ofList_toList]
  have hstop : ∀ x ∈ [' ', '(', ')', ','], ∀ sym ∈ longSymbols, x ∉ sym :=
    List.all_iff_forall_prop.1 (by decide)
  have hfront : longSymbols.find? (·.isPrefixOf (c :: w ++ rest)) =
      longSymbols.find? (·.isPrefixOf (c :: w)) := by
    refine find?_congr fun sym hsym => isPrefixOf_append fun x hx => hstop x ?_ sym hsym
    simpa [stops, show rest.head? = some x from hx] using hrest
  refine ⟨c, w, hw, hc, by simpa [hw] using hshort, ?_⟩
  simp only [plain, ← List.cons_append, hfront]
  rw [hw] at hfind
  rcases hfind with hsome | ⟨hnone, hlen⟩
  · simp [hsome, hofList, hsign]
  · obtain rfl : w = [] := by simpa using hlen
    simp [hnone, hpunctuation c hc, String.singleton_eq_ofList, hofList, hsign]


end Lexer

end Sql

end QueryBook
