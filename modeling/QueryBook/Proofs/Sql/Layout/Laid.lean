import Mathlib.Data.List.Chain
import QueryBook.Proofs.Sql.Edited
import QueryBook.Proofs.Sql.Layout.Line
import QueryBook.Proofs.Sql.Layout.Lexemes

/-!
# Printed parts as tokens

A line is cut part by part (`Laid`): each part says which texts may stand behind it. The words that
are cut off become tokens one by one, unless two neighbours make a keyword together (`Spaced`). Both
hold of all the parts of a statement together (`Written`) if they hold of its pieces and grammar
words or punctuation stand between them (`Written.glue`).
-/

namespace QueryBook.Sql

open Text Lexer Layout
open Lexeme (kw)

/-! ## Lexemes on a line -/

/-- What a lexeme is cut off as. -/
def Lexeme.scanned : Lexeme → List Scanned
  | word s | keyword _ s =>
    match Keyword.phraseWords.lookup s with
    | some (first, second) => [.lexeme (.word first), .lexeme (.word second)]
    | none => [.lexeme (.word s)]
  | l => [.lexeme l]

theorem Lexeme.scanned_symbol (s : String) : (symbol s).scanned = [.lexeme (.symbol s)] := rfl

variable {d : Dialect} {p : Part} {ps qs : List Part} {rest : List Char}

/-- Parts on a line are cut off as their lexemes, up to the rest of the line. -/
def Laid (d : Dialect) (ps : List Part) (rest : List Char) : Prop :=
  Cuts d (chars d (tight ps) ++ rest) ((lexemes ps).flatMap Lexeme.scanned) rest

namespace Laid

theorem nil : Laid d [] rest :=
  .done rest

theorem append (h : Laid d ps (chars d qs ++ rest)) (h' : Laid d qs rest) :
    Laid d (ps ++ qs) rest := by
  rcases ps with _ | ⟨p, ps⟩
  · simpa using h'
  have hbehind : Cuts d (chars d qs ++ rest) ((lexemes qs).flatMap Lexeme.scanned) rest := by
    rcases qs with _ | ⟨⟨gap, m⟩, qs⟩
    · exact .done rest
    · cases gap
      · exact h'
      · exact .space h'
  have hall := Cuts.append h hbehind
  unfold Laid
  rw [show tight (p :: ps ++ qs) = tight (p :: ps) ++ qs from rfl, chars_append, List.append_assoc,
    lexemes_append, List.flatMap_append]
  exact hall

/-- Whether a space stands before the first part does not matter on its line. -/
theorem tight_iff : Laid d (tight ps) rest ↔ Laid d ps rest := by
  unfold Laid
  rw [lexemes_tight]
  cases ps <;> rfl

end Laid

theorem lookup_phraseWords {s : String} {words : String × String}
    (h : Keyword.phraseWords.lookup s = some words) : (s, words) ∈ Keyword.phraseWords := by
  obtain ⟨before, after, heq, -⟩ := List.lookup_eq_some_iff.mp h
  rw [heq]
  exact List.mem_append_right _ List.mem_cons_self

theorem isWord_not_phrase {s : String} (hs : isWord s = true) :
    Keyword.phraseWords.lookup s = none := by
  cases h : Keyword.phraseWords.lookup s with
  | none => rfl
  | some words =>
    have hnot : ∀ p ∈ Keyword.phraseWords, isWord p.1 = false := by decide
    exact absurd hs (by simp [hnot _ (lookup_phraseWords h)])

theorem Lexeme.scanned_ofWord {s : String} (hs : isWord s = true) :
    (ofWord s).scanned = [.lexeme (.word s)] := by
  rcases ofWord_cases s with h | ⟨kind, h⟩ <;> rw [h] <;> simp [scanned, isWord_not_phrase hs]

section

attribute [local simp] Laid chars tight markChars Lexeme.chars lexemes Part.lexemes

theorem laid_number {s : String} {gap : Bool} (hs : isNumeral s = true) (hrest : stops rest = true) :
    Laid d [⟨gap, .lexeme (.number s)⟩] rest := by
  obtain ⟨c, w, hw⟩ : ∃ c w, s.toList = c :: w := by
    cases h : s.toList with
    | nil => simp [isNumeral, h] at hs
    | cons c w => exact ⟨c, w, rfl⟩
  have hdigit : c.isDigit = true := by
    simp only [isNumeral, hw, Bool.and_eq_true] at hs
    exact hs.1
  have hblank : isBlank c = false := isBlank_of_isDigit hdigit
  have hcut : Cuts d (c :: (w ++ rest)) [.lexeme (.number s)] rest :=
    .one hblank (next_number hs hw hrest) (by simp)
  simpa [Lexeme.scanned, hw] using hcut

section

variable (hd : d ∈ Dialect.all)
include hd

theorem cuts_word {s : String} (hs : isWord s = true) (hrest : pauses rest = true) :
    Cuts d (s.toList ++ rest) [.lexeme (.word s)] rest := by
  obtain ⟨c, w, hw⟩ : ∃ c w, s.toList = c :: w := by
    cases h : s.toList with
    | nil => simp [isWord, h] at hs
    | cons c w => exact ⟨c, w, rfl⟩
  have hc := ((isWord_iff hw).mp hs).2.1 c (by simp)
  rw [hw]
  exact .one (isBlank_of_isWordPart hc) (next_word hd hs hw hrest) (by simp)

theorem laid_word {s : String} {gap : Bool} (hs : isWord s = true) (hrest : pauses rest = true) :
    Laid d [⟨gap, .lexeme (.word s)⟩] rest := by
  have hcut := cuts_word hd hs hrest
  simpa [Lexeme.scanned_ofWord hs] using hcut

theorem laid_quoted (s : String) {gap : Bool} (hrest : pauses rest = true) :
    Laid d [⟨gap, .lexeme (.quoted s)⟩] rest := by
  have hblank : ∀ d ∈ Dialect.all, isBlank d.nameQuotes.1 = false := by decide
  have hcut : Cuts d (d.nameQuotes.1 :: (doubled d.nameQuotes.2 s.toList ++ d.nameQuotes.2 :: rest))
      [.lexeme (.quoted s)] rest :=
    .one (hblank d hd) (by simpa using next_quoted hd s.toList hrest) (by simp; omega)
  simpa [Lexeme.scanned, Dialect.printName, delimited] using hcut

theorem laid_text (s : String) {gap : Bool} (hrest : pauses rest = true) :
    Laid d [⟨gap, .lexeme (.text s)⟩] rest := by
  have hcut : Cuts d ('\'' :: (doubled '\'' (s.toList.flatMap d.escapeChar) ++ '\'' :: rest))
      [.lexeme (.text s)] rest :=
    .one (by decide) (by simpa using next_text hd s.toList hrest) (by simp; omega)
  simpa [Lexeme.scanned, Dialect.printText, delimited] using hcut


theorem laid_sign {s : String} {gap : Bool} (hs : s ∈ printedSigns) (hrest : stops rest = true) :
    Laid d [⟨gap, .lexeme (.symbol s)⟩] rest := by
  obtain ⟨c, w, hw, hc, hshort, hplain⟩ := plain_sign hs hrest
  have hblank : ∀ c ∈ signChars, isBlank c = false := List.all_iff_forall_prop.1 (by decide)
  have hhead (x : Char) (hx : x ∉ [' ', '(', ')', ',', '.']) (h : c = '-' ∨ c = '/') :
      (w ++ rest).head? ≠ some x := by
    rw [hshort h]
    exact ne_of_pauses (pauses_of_stops hrest) hx
  have hnext : next d c (w ++ rest) = _ :=
    next_sign hd hc (fun h => hhead '-' (by decide) (.inl h)) fun h => hhead '*' (by decide) (.inr h)
  rw [hplain] at hnext
  have hcut : Cuts d (c :: (w ++ rest)) [.lexeme (.symbol s)] rest :=
    .one (hblank c hc) hnext (by simp)
  simpa [Lexeme.scanned, hw] using hcut

/-- A sign of one character that begins no other sign with what follows. -/
theorem laid_char {c : Char} {gap : Bool} (hc : c ∈ signChars)
    (hsign : sign (String.singleton c) = .symbol (String.singleton c))
    (hlong : ∀ s ∈ longSymbols, s[0]? = some c → s[1]? ≠ rest.head?)
    (hdash : c = '-' → rest.head? ≠ some '-') (hslash : c ≠ '/') :
    Laid d [⟨gap, .lexeme (.symbol (String.singleton c))⟩] rest := by
  have hblank : ∀ c ∈ signChars, isBlank c = false := List.all_iff_forall_prop.1 (by decide)
  have hpunctuation : ∀ c ∈ signChars, c ∈ punctuation := List.all_iff_forall_prop.1 (by decide)
  have hnext := next_sign hd hc hdash fun h => absurd h hslash
  rw [plain_one (hpunctuation c hc) hlong, hsign] at hnext
  have hcut : Cuts d (c :: rest) [.lexeme (.symbol (String.singleton c))] rest :=
    .one (hblank c hc) hnext (Nat.le_refl _)
  simpa [Lexeme.scanned] using hcut

/-- Parentheses, commas and points are cut off whatever follows. -/
theorem laid_punctuation {s : String} {gap : Bool} (hs : s ∈ ["(", ")", ",", "."]) :
    Laid d [⟨gap, .lexeme (.symbol s)⟩] rest := by
  have hlong : ∀ c ∈ ['(', ')', ',', '.'], ∀ s ∈ longSymbols, s[0]? ≠ some c :=
    List.all_iff_forall_prop.1 (by decide)
  have hchar (c : Char) (hc : c ∈ ['(', ')', ',', '.']) (hin : c ∈ signChars)
      (hsign : sign (String.singleton c) = .symbol (String.singleton c)) (hdash : c ≠ '-')
      (hslash : c ≠ '/') : Laid d [⟨gap, .lexeme (.symbol (String.singleton c))⟩] rest :=
    laid_char hd hin hsign (fun s hs h => absurd h (hlong c hc s hs)) (fun h => absurd h hdash) hslash
  simp only [List.mem_cons, List.not_mem_nil, or_false] at hs
  rcases hs with rfl | rfl | rfl | rfl
  · exact hchar '(' (by decide) (by decide) rfl (by decide) (by decide)
  · exact hchar ')' (by decide) (by decide) rfl (by decide) (by decide)
  · exact hchar ',' (by decide) (by decide) rfl (by decide) (by decide)
  · exact hchar '.' (by decide) (by decide) rfl (by decide) (by decide)

/-- A minus sign directly before an operand. -/
theorem laid_minus {gap : Bool} (hdash : rest.head? ≠ some '-') (hangle : rest.head? ≠ some '>') :
    Laid d [⟨gap, .lexeme (.symbol "-")⟩] rest := by
  have hlong : ∀ s ∈ longSymbols, s[0]? = some '-' → s[1]? = some '>' := by decide
  exact laid_char hd (c := '-') (by decide) rfl
    (fun s hs h heq => hangle (by rw [← heq, hlong s hs h])) (fun _ => hdash) (by decide)

theorem laid_placeholder {s : String} (hs : isWord s = true) (hp : d.placeholder = (":", ""))
    (hrest : pauses rest = true) : Laid d [⟨true, .placeholder s⟩] rest := by
  obtain ⟨c, w, hw⟩ : ∃ c w, s.toList = c :: w := by
    cases h : s.toList with
    | nil => simp [isWord, h] at hs
    | cons c w => exact ⟨c, w, rfl⟩
  have hc : isWordPart c = true := ((isWord_iff hw).mp hs).2.1 c (by simp)
  have hlong : ∀ s ∈ longSymbols, s[0]? = some ':' → s[1]?.any punctuation.contains = true := by
    decide
  have hcolon : Laid d [⟨true, .lexeme (.symbol ":")⟩] (s.toList ++ rest) := by
    refine laid_char hd (c := ':') (by decide) rfl (fun sym hsym h heq => ?_)
      (fun h => absurd h (by decide)) (by decide)
    have hmem := hlong sym hsym h
    rw [heq, hw] at hmem
    exact ne_of_isWordPart hc (by simpa using hmem) rfl
  have hword := cuts_word hd hs hrest
  have hcut := Cuts.append hcolon hword
  simpa [Lexeme.scanned_symbol, hp, Lexeme.scanned_ofWord hs] using hcut

theorem laid_anonymous (hp : d.anonymous = "?") (hrest : stops rest = true) :
    Laid d [⟨true, .anonymous⟩] rest := by
  have hsign : Laid d [⟨true, .lexeme (.symbol "?")⟩] rest := laid_sign hd (by decide) hrest
  simpa [Lexeme.scanned, hp] using hsign

/-- The keywords of two words. -/
theorem laid_phrase {s first second : String} {gap : Bool}
    (hs : Keyword.phraseWords.lookup s = some (first, second)) (hrest : stops rest = true) :
    Laid d [⟨gap, .lexeme (.word s)⟩] rest := by
  have hfacts : ∀ p ∈ Keyword.phraseWords, isWord p.2.1 = true ∧ isWord p.2.2 = true ∧
      p.1.toList = p.2.1.toList ++ ' ' :: p.2.2.toList := by decide
  obtain ⟨hfirst, hsecond, hchars⟩ := hfacts _ (lookup_phraseWords hs)
  have hkeyword : Lexeme.ofWord s = kw s := by rw [Lexeme.ofWord, hs]
  have hcut : Cuts d (first.toList ++ ' ' :: (second.toList ++ rest)) _ rest :=
    (cuts_word hd hfirst rfl).append (.space (cuts_word hd hsecond (pauses_of_stops hrest)))
  simpa [Lexeme.scanned, hchars, hkeyword, hs] using hcut

end

end

/-! ## Tokens -/

namespace Lexeme

/-- Whether a keyword of two words can begin with the lexeme. -/
def opens : Lexeme → Bool
  | word s | keyword _ s => Keyword.phrases.any (·.1.1 == upper s)
  | _ => false

/-- Whether a keyword of two words can end with the lexeme. -/
def closes : Lexeme → Bool
  | word s | keyword _ s => Keyword.phrases.any (·.1.2 == upper s)
  | _ => false

/-- Whether the lexeme is what a printed part is read as. -/
def isPrinted : Lexeme → Bool
  | word s => ofWord s == word s
  | keyword kind s => ofWord s == keyword kind s
  | marked .. | hint _ => false
  | _ => true

/-- No two neighbours make a keyword together. -/
def Spaced (ls : List Lexeme) : Prop :=
  ls.IsChain fun l m => l.opens = false ∨ m.closes = false

end Lexeme

open Lexeme (Spaced)

namespace Lexer.Reading

variable {r : Reading} {l m : Lexeme} {ls : List Lexeme}

theorem phrases_lookup_first {first : String} (h : Keyword.phrases.any (·.1.1 == first) = false)
    (second : String) : Keyword.phrases.lookup (first, second) = none := by
  rw [List.lookup_eq_none_iff]
  intro p hp
  have hne := List.any_eq_false.mp h p hp
  simp only [beq_iff_eq] at hne
  exact bne_iff_ne.mpr fun heq : (first, second) = p.1 => hne (congrArg Prod.fst heq).symm

theorem phrases_lookup_second {second : String} (h : Keyword.phrases.any (·.1.2 == second) = false)
    (first : String) : Keyword.phrases.lookup (first, second) = none := by
  rw [List.lookup_eq_none_iff]
  intro p hp
  have hne := List.any_eq_false.mp h p hp
  simp only [beq_iff_eq] at hne
  exact bne_iff_ne.mpr fun heq : (first, second) = p.1 => hne (congrArg Prod.snd heq).symm

/-- What was read last does not begin a keyword of two words. -/
def IsClosed (r : Reading) : Prop :=
  ∀ first ∈ r.open?, Keyword.phrases.any (·.1.1 == first) = false

theorem phrase?_of_isClosed (h : r.IsClosed) (second : String) : r.phrase? second = none := by
  cases hopen : r.open? with
  | none => simp [phrase?, hopen]
  | some first => simp [phrase?, hopen, phrases_lookup_first (h first hopen) second]

theorem phrase?_of_closes {second : String} (h : Keyword.phrases.any (·.1.2 == second) = false) :
    r.phrase? second = none := by
  cases hopen : r.open? with
  | none => simp [phrase?, hopen]
  | some first => simp [phrase?, hopen, phrases_lookup_second h first]

theorem word_eq {s : String} (hs : Keyword.phraseWords.lookup s = none) (hr : r.pending = [])
    (hat : r.last?.any (·.isSymbol "@") = false) (hphrase : r.phrase? (upper s) = none) :
    r.word s = ⟨(Lexeme.ofWord s).token :: r.tokens, [], true, some (upper s)⟩ := by
  have hlexeme : r.wordLexeme s = .ofWord s := by
    simp only [wordLexeme, hat, Bool.false_eq_true, if_false, Lexeme.ofWord, hs]
    cases Keyword.kind? (upper s) <;> rfl
  have hsymbol : (Lexeme.ofWord s).isSymbol ";" = false := by
    rcases Lexeme.ofWord_cases s with h | ⟨kind, h⟩ <;> rw [h] <;> rfl
  have hadd : r.word s = r.add (r.wordLexeme s) (some (upper s)) := by
    simp only [word, hphrase]
    cases r.tokens <;> rfl
  rw [hadd, hlexeme, add, hsymbol, hr]
  rfl

/-- The words of a printed keyword of two words become one token. -/
theorem phrase_eq {s first second : String}
    (hs : Keyword.phraseWords.lookup s = some (first, second)) (hr : r.pending = [])
    (hat : r.last?.any (·.isSymbol "@") = false) :
    (r.word first).word second = ⟨(kw s).token :: r.tokens, [], true, none⟩ := by
  have hfacts : ∀ p ∈ Keyword.phraseWords, Keyword.phraseWords.lookup p.2.1 = none ∧
      Keyword.phrases.any (·.1.2 == upper p.2.1) = false ∧
      (Keyword.phrases.lookup (upper p.2.1, upper p.2.2)).map (fun kind => (kind, upper p.2.1 ++ " " ++ upper p.2.2)) =
        some (p.1, p.1) := by
    decide
  obtain ⟨hfirst, hcloses, hphrase⟩ := hfacts _ (lookup_phraseWords hs)
  rw [word_eq hfirst hr hat (phrase?_of_closes hcloses)]
  simp only [word, phrase?, hphrase]
  rfl

/-- A word, or the two words of a keyword, becomes a token. -/
theorem foldl_ofWord {s : String} (hr : r.pending = [])
    (hat : r.last?.any (·.isSymbol "@") = false)
    (ha : r.IsClosed ∨ (Lexeme.ofWord s).closes = false) :
    ((Lexeme.ofWord s).scanned.foldl step r).tokens = (Lexeme.ofWord s).token :: r.tokens ∧
      ((Lexeme.ofWord s).scanned.foldl step r).pending = [] ∧
      ((Lexeme.ofWord s).opens = false → ((Lexeme.ofWord s).scanned.foldl step r).IsClosed) := by
  obtain ⟨hcloses, hopens⟩ :
      (Lexeme.ofWord s).closes = Keyword.phrases.any (·.1.2 == upper s) ∧
      (Lexeme.ofWord s).opens = Keyword.phrases.any (·.1.1 == upper s) := by
    rcases Lexeme.ofWord_cases s with h | ⟨kind, h⟩ <;> rw [h] <;> exact ⟨rfl, rfl⟩
  rcases hphrase : Keyword.phraseWords.lookup s with _ | ⟨first, second⟩
  · have hnone : r.phrase? (upper s) = none :=
      ha.elim (phrase?_of_isClosed · _) fun h => phrase?_of_closes (hcloses ▸ h)
    have hfold : (Lexeme.ofWord s).scanned.foldl step r = r.word s := by
      rcases Lexeme.ofWord_cases s with h | ⟨kind, h⟩ <;> rw [h, Lexeme.scanned, hphrase] <;> rfl
    rw [hfold, word_eq hphrase hr hat hnone]
    exact ⟨rfl, rfl, fun hnot first hfirst => by cases hfirst; rwa [← hopens]⟩
  · have hfold : (Lexeme.ofWord s).scanned.foldl step r = (r.word first).word second := by
      rcases Lexeme.ofWord_cases s with h | ⟨kind, h⟩ <;> rw [h, Lexeme.scanned, hphrase] <;> rfl
    have hkw : Lexeme.ofWord s = kw s := by rw [Lexeme.ofWord, hphrase]
    rw [hfold, phrase_eq hphrase hr hat, hkw]
    exact ⟨rfl, rfl, fun _ _ h => by cases h⟩

/-- A printed lexeme becomes a token. -/
theorem foldl_scanned (hl : l.isPrinted = true) (hend : l.isSymbol ";" = false)
    (hr : r.pending = []) (hat : r.last?.any (·.isSymbol "@") = false)
    (ha : r.IsClosed ∨ l.closes = false) :
    (l.scanned.foldl step r).tokens = l.token :: r.tokens ∧ (l.scanned.foldl step r).pending = [] ∧
      (l.opens = false → (l.scanned.foldl step r).IsClosed) := by
  cases l with
  | word s =>
    have hs : Lexeme.ofWord s = .word s := by simpa [Lexeme.isPrinted] using hl
    rw [← hs] at ha ⊢
    exact foldl_ofWord hr hat ha
  | keyword kind s =>
    have hs : Lexeme.ofWord s = .keyword kind s := by simpa [Lexeme.isPrinted] using hl
    rw [← hs] at ha ⊢
    exact foldl_ofWord hr hat ha
  | marked | hint => cases hl
  | quoted | text | number | symbol =>
    refine ⟨?_, ?_, fun _ => ?_⟩ <;>
      simp [Lexeme.scanned, step, add, hend, hr, Lexeme.token, IsClosed]

theorem foldl_tokens (hls : ∀ l ∈ ls, l.isPrinted = true ∧ l.isTame = true)
    (hspaced : Spaced ls) (hr : r.pending = []) (hat : r.last?.any (·.isSymbol "@") = false)
    (ha : r.IsClosed ∨ ∀ l ∈ ls.head?, l.closes = false) :
    ((ls.flatMap Lexeme.scanned).foldl step r).tokens = (ls.map Lexeme.token).reverse ++ r.tokens ∧
      ((ls.flatMap Lexeme.scanned).foldl step r).pending = [] := by
  induction ls generalizing r with
  | nil => exact ⟨by simp, hr⟩
  | cons l ls ih =>
    obtain ⟨⟨hprinted, htame⟩, hls⟩ := List.forall_mem_cons.mp hls
    have hend : l.isSymbol ";" = false := Lexeme.not_isSymbol_of_isTame htame (by simp)
    have hat' : l.isSymbol "@" = false := Lexeme.not_isSymbol_of_isTame htame (by simp)
    obtain ⟨htokens, hpending, hclosed⟩ :=
      foldl_scanned hprinted hend hr hat (ha.imp id fun h => h l rfl)
    have hnext : (l.scanned.foldl step r).IsClosed ∨ ∀ m ∈ ls.head?, m.closes = false := by
      cases ls with
      | nil => exact .inr nofun
      | cons m ls =>
        have hpair := (List.isChain_cons_cons.mp hspaced).1
        exact hpair.imp hclosed fun h _ hm => by cases hm; exact h
    obtain ⟨htokens', hpending'⟩ := ih hls hspaced.tail hpending
      (by simp [last?, htokens, Lexeme.token, hat']) hnext
    rw [List.flatMap_cons, List.foldl_append, htokens', htokens]
    exact ⟨by simp, hpending'⟩

end Lexer.Reading

/-- The tokens of printed lexemes are these lexemes. -/
theorem attach_scanned {ls : List Lexeme} (hls : ∀ l ∈ ls, l.isPrinted = true ∧ l.isTame = true)
    (hspaced : Spaced ls) : attach (ls.flatMap Lexeme.scanned) = ls.map Lexeme.token := by
  obtain ⟨htokens, hpending⟩ :=
    Lexer.Reading.foldl_tokens (r := .start) hls hspaced rfl rfl (.inl nofun)
  have hnone (ts : List Token) : Reading.commented [] ts = ts := by
    cases ts <;> simp [Reading.commented]
  rw [attach, Reading.finish, hpending, hnone, htokens]
  simp [Reading.start]

end QueryBook.Sql
