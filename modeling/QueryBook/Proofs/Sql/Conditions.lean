import QueryBook.Proofs.Sql.Numerals
import QueryBook.Proofs.Sql.RoundTrip

/-!
# Conditions that are read as they are printed

The condition of an edit compares columns with literals. A column is named by a word that the grammar
leaves alone (`IsColumnName`), as it leaves every identifier that is no keyword. The condition is read
back as it was, up to one kind of literal: a number that is written with a minus sign is read as the
negation of a numeral (`Expr.signed`).
-/

namespace QueryBook

theorem Dialect.generic_mem : generic ∈ all := by
  simp [all, described]

namespace Sql

open Lexer (isWord isNumeral)

/-! ## Column names -/

/-- A word that names a column wherever a column is listed or compared. -/
structure IsColumnName (c : String) : Prop where
  word : isWord c = true
  tame : (Lexeme.ofWord c).isTame = true
  names : (Lexeme.ofWord c).namesColumn = true ∨ (Lexeme.ofWord c).namesType = true

instance : DecidablePred IsColumnName := fun c =>
  decidable_of_iff (isWord c = true ∧ (Lexeme.ofWord c).isTame = true ∧
      ((Lexeme.ofWord c).namesColumn = true ∨ (Lexeme.ofWord c).namesType = true))
    ⟨fun h => ⟨h.1, h.2.1, h.2.2⟩, fun h => ⟨h.word, h.tame, h.names⟩⟩

/-- An ASCII letter or underscore, and ASCII letters, digits and underscores behind it. -/
def IsIdentifier (c : String) : Prop :=
  c.toList.head?.any Text.startsName = true ∧ ∀ x ∈ c.toList, Text.isAsciiWord x = true

theorem isAsciiWord_lt {x : Char} (h : Text.isAsciiWord x = true) : x.toNat < 128 := by
  have hchoice : (x.isUpper || x.isLower || x.isDigit || x == '_') = true := h
  have hbound {top : Char} (htop : x.val ≤ top.val) (hascii : top.toNat < 128) : x.toNat < 128 :=
    Nat.lt_of_le_of_lt htop hascii
  simp only [Bool.or_eq_true, beq_iff_eq] at hchoice
  rcases hchoice with ((hupper | hlower) | hdigit) | rfl
  · have hrange : 'A'.val ≤ x.val ∧ x.val ≤ 'Z'.val := of_decide_eq_true hupper
    exact hbound hrange.2 (by decide)
  · have hrange : decide ('a'.val ≤ x.val) = true ∧ decide (x.val ≤ 'z'.val) = true :=
      Bool.and_eq_true_iff.mp hlower
    exact hbound (of_decide_eq_true hrange.2) (by decide)
  · have hrange : decide ('0'.val ≤ x.val) = true ∧ decide (x.val ≤ '9'.val) = true :=
      Bool.and_eq_true_iff.mp hdigit
    exact hbound (of_decide_eq_true hrange.2) (by decide)
  · decide

/-- What holds of the characters of ASCII. -/
theorem forall_ascii {P : Char → Prop} (hall : ∀ n < 128, P (Char.ofNat n)) {x : Char}
    (hx : x.toNat < 128) : P x := by
  have h := hall x.toNat hx
  rwa [Char.ofNat_toNat] at h

/-- A character of an identifier can stand in a word, and its capital is no dash. -/
theorem isWordPart_of_isAsciiWord {x : Char} (h : Text.isAsciiWord x = true) :
    Lexer.isWordPart x = true ∧ '-' ∉ Text.capital x :=
  forall_ascii (P := fun x => Text.isAsciiWord x = true →
    Lexer.isWordPart x = true ∧ '-' ∉ Text.capital x) (by decide) (isAsciiWord_lt h) h

theorem not_digit_of_startsName {x : Char} (hword : Text.isAsciiWord x = true)
    (h : Text.startsName x = true) : x.isDigit = false ∧ x ≠ '$' :=
  forall_ascii (P := fun x => Text.startsName x = true → x.isDigit = false ∧ x ≠ '$')
    (by decide) (isAsciiWord_lt hword) h

theorem IsIdentifier.isWord {c : String} (h : IsIdentifier c) : Lexer.isWord c = true := by
  obtain ⟨hstart, hall⟩ := h
  cases hc : c.toList with
  | nil => simp [hc] at hstart
  | cons x xs =>
    rw [hc] at hstart hall
    refine (Lexer.isWord_iff hc).mpr ⟨?first, fun y hy => ?parts, fun heq => ?hyphen⟩
    case first => exact not_digit_of_startsName (hall x List.mem_cons_self) hstart
    case parts => exact (isWordPart_of_isAsciiWord (hall y hy)).1
    case hyphen =>
      have hdash : '-' ∈ Lexer.hyphenated.toList := by decide
      rw [← heq, Text.upper, String.toList_ofList, String.toList_ofList, List.mem_flatMap] at hdash
      obtain ⟨y, hy, hmem⟩ := hdash
      exact (isWordPart_of_isAsciiWord (hall y (List.mem_of_mem_take hy))).2 hmem

/-- An identifier names a column unless it is a keyword, or a word that something like a call
begins with. -/
theorem IsIdentifier.isColumnName {c : String} (h : IsIdentifier c)
    (hkind : Keyword.kind? (Text.upper c) = none)
    (hlead : Text.upper c ∉ Parser.leadingFunctions) : IsColumnName c := by
  have hphrase : Keyword.phraseWords.lookup c = none := isWord_not_phrase h.isWord
  have hword : Lexeme.ofWord c = .word c := by rw [Lexeme.ofWord, hphrase, hkind]
  have hvalues : (Text.upper c == "VALUES") = false := by
    rw [beq_eq_false_iff_ne]
    intro heq
    rw [heq] at hkind
    exact absurd hkind (by decide)
  refine ⟨h.isWord, ?tame, .inl ?names⟩
  case tame =>
    rw [hword]
    simp [Lexeme.isTame, Lexeme.reads, Lexeme.content, Lexeme.isSymbol, hvalues]
  case names =>
    rw [hword]
    simp [Lexeme.namesColumn, Lexeme.namesSource, Parser.isWordOf, Lexeme.beginsBareCall,
      Parser.bareFunction?, Lexeme.beginsPrimary, Lexeme.beginsType, Lexeme.content, hlead]

/-! ## Levels -/

/-- What is covered at a level of operators is covered at the levels above. -/
theorem Covered.above {d : Dialect} {e : Expr} {lower : Level} (h : Covered d (.expr lower e)) :
    ∀ upper ∈ lower.above, Covered d (.expr upper e) := by
  generalize hlevels : lower.above = levels
  induction levels generalizing lower with
  | nil => nofun
  | cons next levels ih =>
    have hnext : Covered d (.expr next e) ∧ next.above = levels := by
      cases lower <;> cases hlevels
      case equality =>
        have hnegation : Covered d (.expr .negation e) := .rise (by decide) h
        exact ⟨.rise (by decide) hnegation, rfl⟩
      all_goals exact ⟨.rise (by decide) h, rfl⟩
    exact List.forall_mem_cons.mpr ⟨hnext.1, ih hnext.1 hnext.2⟩

/-! ## Names as columns -/

namespace IsColumnName

variable {d : Dialect} {c : String} (h : IsColumnName c)
include h

theorem writes : (Name.plain c).Writes (.ofWord c) :=
  .plain h.word h.tame

theorem namesSource :
    (Lexeme.ofWord c).namesSource = true ∧ (Lexeme.ofWord c).beginsPrimary = false := by
  rcases h.names with hnames | hnames
  · simp only [Lexeme.namesColumn, Bool.and_eq_true, Bool.not_eq_true'] at hnames
    exact hnames.1.1
  · simp only [Lexeme.namesType, Bool.and_eq_true, Bool.not_eq_true'] at hnames
    exact hnames.1.1

theorem tokenize_eq : tokenize .generic c = some [(Lexeme.ofWord c).token] := by
  have hline := (h.writes.dotted Dialect.generic_mem).written.tokenize_line
  have htext : Layout.line .generic ((Name.plain c).parts .generic) = c := by
    rw [Name.parts_plain h.word]
    simp [Layout.line, Layout.tight, Layout.chars, Layout.markChars, Lexeme.chars, Part.word]
  rwa [htext, h.writes.lexemes_parts] at hline

/-- The name is read as the column. -/
theorem columnOf_eq : columnOf c = .ok (.name (.plain c)) := by
  obtain ⟨hsource, hprimary⟩ := h.namesSource
  have hcolumn : Parser.Reads (Parser.column (grammarOf .generic [(Lexeme.ofWord c).token]))
      [.ofWord c] (some (.name (.plain c))) [] :=
    (Parser.Owns.name h.writes hsource hprimary rfl
      (Parser.noBrackets_of_follows (.nil _))).column_reads (.nil _)
  have hread : Parser.column (grammarOf .generic [(Lexeme.ofWord c).token])
      (.start [(Lexeme.ofWord c).token]) =
        some (some (.name (.plain c)), .before (some (.ofWord c)) []) := hcolumn none
  have hchunks : Parser.chunks [(Lexeme.ofWord c).token] = [[(Lexeme.ofWord c).token]] := by
    refine Parser.chunks_eq fun t ht => ?_
    rw [List.mem_singleton.mp ht]
    exact Lexeme.not_isSymbol_of_isTame h.tame (by decide)
  have hend : (Cursor.before (some (.ofWord c)) []).rest = [] := rfl
  simp [columnOf, h.tokenize_eq, Column.ofChunks?, hchunks, Column.ofTokens?, hread, hend]

/-- The column is an operand of an equality. -/
theorem covered_equality : Covered d (.expr .equality (.name (.plain c))) := by
  rcases h.names with hnames | hnames
  · have hoperand : Covered d (.expr .operand (.name (.plain c))) := .column (.name h.writes hnames)
    exact hoperand.above _ (by decide)
  · exact .typeName h.writes hnames (.inl rfl)

theorem covered_item : Covered d (.item (.name (.plain c))) :=
  .item (h.covered_equality.above _ (by decide))

end IsColumnName

/-- Names are read as columns, one by one. -/
theorem mapM_columnOf {columns : List String} (h : ∀ c ∈ columns, IsColumnName c) :
    columns.mapM columnOf = .ok (columns.map fun c => .name (.plain c)) := by
  induction columns with
  | nil => rfl
  | cons c columns ih =>
    obtain ⟨hc, hcolumns⟩ := List.forall_mem_cons.mp h
    rw [List.mapM_cons, hc.columnOf_eq, ih hcolumns]
    rfl

/-! ## Literals -/

/-- The tree that a printed literal is read as. -/
def Expr.signed : Expr → Expr
  | .number s =>
    match s.toList with
    | '-' :: cs => Condition.negativeLiteral cs
    | _ => .number s
  | e => e

/-- Whether two expressions are printed alike. -/
def SameText (d : Dialect) (e e' : Expr) : Prop :=
  Layout.chars d (e.parts d) = Layout.chars d (e'.parts d)

namespace Condition

/-- The values that columns can be compared with: texts and finite numbers. -/
def IsComparable : Value → Prop
  | .text _ => True
  | .number n => n.IsFinite
  | .other _ => False

/-- The literals of such values: a number is a numeral, and a negative one has a minus sign that is
an operator or a character of the number. -/
inductive IsLiteral : Expr → Prop
  | text (s : String) : IsLiteral (.text s)
  | number {cs : List Char} (hcs : isNumeral (String.ofList cs) = true) :
    IsLiteral (.number (String.ofList cs))
  | negative {cs : List Char} (hcs : isNumeral (String.ofList cs) = true) :
    IsLiteral (negativeLiteral cs)
  | signed {cs : List Char} (hcs : isNumeral (String.ofList cs) = true) :
    IsLiteral (.number (String.ofList ('-' :: cs)))

/-- A number in its written form is a literal. -/
theorem IsLiteral.of_text {n : Number} (h : n.IsFinite) :
    IsLiteral (.number (String.ofList n.text)) := by
  obtain ⟨isNegative, cs, htext, hcs⟩ := Lexer.exists_numeral h
  rw [htext]
  cases isNegative with
  | false => exact .number hcs
  | true => exact .signed hcs

theorem isLiteral_integer (i : ℤ) : IsLiteral (integerLiteral i) := by
  have hdigits : isNumeral (String.ofList (Decimal.digits i.natAbs)) = true :=
    Lexer.isNumeral_digits (Numeral.digits_ne_nil _) (Numeral.isDigits_digits _)
  unfold integerLiteral
  split
  · exact .negative hdigits
  · exact .number hdigits

theorem isLiteral_rounded {n : Number} (h : n.IsFinite) {s : Bool} {c : ℕ} {e : ℤ} :
    IsLiteral (roundedLiteral n.text (.finite s c e)) := by
  unfold roundedLiteral
  split
  case h_1 magnitude hmagnitude =>
    split at hmagnitude
    case isFalse => cases hmagnitude
    case isTrue =>
      -- The absolute value of a finite decimal is a finite decimal without a sign.
      obtain ⟨c', e', rfl⟩ : ∃ c' e', magnitude = .finite false c' e' := by
        cases c with
        | zero => exact ⟨0, e, (Option.some.inj hmagnitude).symm⟩
        | succ c =>
          obtain ⟨r, -, hr⟩ := Option.map_eq_some_iff.mp hmagnitude
          exact ⟨r.1, r.2, hr.symm⟩
      exact .negative (Lexer.isNumeral_magnitude c' e')
  case h_2 => exact .of_text h

theorem isLiteral_decimal (s : Bool) (c : ℕ) (e : ℤ) :
    IsLiteral (decimalLiteral (.finite s c e)) := by
  unfold decimalLiteral
  split
  case isTrue h =>
    obtain rfl : s = true := by
      simp only [Decimal.isNegative, Bool.and_eq_true] at h
      exact h.1.1.1
    exact .negative (Lexer.isNumeral_magnitude c e)
  case isFalse => exact isLiteral_rounded (n := .decimal (.finite s c e)) ⟨s, c, e, rfl⟩

theorem isLiteral_number {n : Number} (h : n.IsFinite) : IsLiteral (numberLiteral n) := by
  cases n with
  | int i => exact isLiteral_integer i
  | double x =>
    obtain ⟨s, m, q, evenGap, hshape⟩ := id h
    obtain ⟨c, k, hdecimal⟩ := Number.toDecimal_finite hshape
    rw [numberLiteral, hdecimal]
    exact isLiteral_rounded h
  | decimal d =>
    obtain ⟨s, c, e, rfl⟩ := h
    exact isLiteral_decimal s c e
  | fraction => exact h.elim
  | complex => exact h.elim

theorem signed_sign (cs : List Char) :
    (Expr.number (String.ofList ('-' :: cs))).signed = negativeLiteral cs := by
  simp only [Expr.signed, String.toList_ofList]

theorem signed_numeral {cs : List Char} (hcs : isNumeral (String.ofList cs) = true) :
    (Expr.number (String.ofList cs)).signed = .number (String.ofList cs) := by
  obtain ⟨x, xs, rfl, hdigit⟩ := Lexer.exists_digit_of_isNumeral hcs
  rw [Expr.signed, String.toList_ofList]
  split
  case h_1 heq =>
    cases heq
    exact absurd hdigit (by decide)
  case h_2 => rfl

namespace IsLiteral

variable {d : Dialect} {e : Expr}

theorem covered (h : IsLiteral e) : Covered d (.expr .operand e.signed) := by
  cases h with
  | text s => exact .text s
  | number hcs =>
    rw [signed_numeral hcs]
    exact .number hcs
  | negative hcs => exact .negative (.number hcs)
  | signed hcs =>
    rw [signed_sign]
    exact .negative (.number hcs)

theorem sameText (h : IsLiteral e) : SameText d e e.signed := by
  cases h with
  | number hcs => rw [SameText, signed_numeral hcs]
  | signed hcs =>
    rw [signed_sign]
    simp [SameText, negativeLiteral, Expr.parts, negated, Part.symbol, Layout.tight, Layout.chars,
      Layout.markChars, Lexeme.chars]
  | _ => rfl

theorem encloses (h : IsLiteral e) :
    BinaryOp.equal.encloses e = false ∧ BinaryOp.equal.encloses e.signed = false := by
  cases h with
  | number hcs => exact ⟨rfl, by rw [signed_numeral hcs]; rfl⟩
  | signed hcs => exact ⟨rfl, by rw [signed_sign]; rfl⟩
  | _ => exact ⟨rfl, rfl⟩

end IsLiteral

/-! ## Conditions -/

/-- The equality that a column and its value are read as: a text is the same text, a number is its
literal. -/
inductive Equates : String × Value → Expr → Prop
  | text (c s : String) : Equates (c, .text s) (.binary .equal (.name (.plain c)) (.text s))
  | number (c : String) (n : Number) :
    Equates (c, .number n) (.binary .equal (.name (.plain c)) (numberLiteral n).signed)

/-- What can be said of an entry of an edit's condition: its column is a column name, and its value
can be compared. -/
structure IsEntry (entry : String × Value) : Prop where
  column : IsColumnName entry.1
  value : IsComparable entry.2

/-- An equality of a column and a literal is covered, and the text is that of the literal. -/
theorem IsLiteral.equality {c : String} {l : Expr} (hc : IsColumnName c) (hl : IsLiteral l)
    {d : Dialect} (hd : d ∈ Dialect.all) :
    SameText d (.binary .equal (.name (.plain c)) l) (.binary .equal (.name (.plain c)) l.signed) ∧
      Covered d (.expr .equality (.binary .equal (.name (.plain c)) l.signed)) := by
  have hop : ∀ d ∈ Dialect.all,
      Parser.operator? d .equality (.symbol "=") = some .equal := by decide
  constructor
  · simp only [SameText, Expr.parts, operandParts, hl.encloses, Layout.chars_append,
      Bool.false_eq_true, if_false]
    rw [hl.sameText]
  · exact .binary (by decide) rfl (hop d hd) hc.covered_equality (hl.covered.above _ (by decide))
      ⟨rfl, hl.encloses.2⟩

/-- The equality of an entry is read as the entry says, up to its literal. -/
theorem equality_eq {entry : String × Value} (h : IsEntry entry) :
    ∃ e e', equality entry.1 entry.2 = .ok e ∧ Equates entry e' ∧
      ∀ d ∈ Dialect.all, SameText d e e' ∧ Covered d (.expr .equality e') := by
  obtain ⟨c, v⟩ := entry
  obtain ⟨hc, hv⟩ := h
  have hequality {l : Expr} (hl : literal v = .ok l) :
      equality c v = .ok (.binary .equal (.name (.plain c)) l) := by
    have hcolumn : columnOf c = .ok (.name (.plain c)) := hc.columnOf_eq
    simp [equality, hcolumn, hl, bind, Except.bind, pure, Except.pure]
  cases v with
  | text s => exact ⟨_, _, hequality rfl, .text c s, fun d hd => (IsLiteral.text s).equality hc hd⟩
  | number n =>
    exact ⟨_, _, hequality rfl, .number c n, fun d hd => (isLiteral_number hv).equality hc hd⟩
  | other k => exact hv.elim

/-! ### Conjunctions -/

variable {d : Dialect}

theorem and_encloses (e : Expr) : BinaryOp.and.encloses e = false := by
  unfold BinaryOp.encloses
  split <;> rfl

theorem SameText.and {left left' right right' : Expr} (hleft : SameText d left left')
    (hright : SameText d right right') :
    SameText d (.binary .and left right) (.binary .and left' right') := by
  simp only [SameText, Expr.parts, operandParts, and_encloses, Layout.chars_append,
    Bool.false_eq_true, if_false]
  rw [hleft, hright]

theorem SameText.conjunction {first first' : Expr} {more more' : List Expr}
    (hfirst : SameText d first first') (hmore : List.Forall₂ (SameText d) more more') :
    SameText d (conjunction first more) (conjunction first' more') := by
  induction hmore generalizing first first' with
  | nil => exact hfirst
  | cons h _ ih => exact ih (SameText.and hfirst h)

theorem covered_conjunction (hd : d ∈ Dialect.all) {first : Expr} {more : List Expr}
    (hfirst : Covered d (.expr .conjunction first))
    (hmore : ∀ e ∈ more, Covered d (.expr .equality e)) :
    Covered d (.expr .conjunction (conjunction first more)) := by
  have hop : ∀ d ∈ Dialect.all, Parser.operator? d .conjunction (Lexeme.kw "AND") = some .and := by
    decide
  have hsign : Layout.lexemes BinaryOp.and.parts = [Lexeme.kw "AND"] := by decide
  induction more generalizing first with
  | nil => exact hfirst
  | cons e more ih =>
    obtain ⟨he, hmore⟩ := List.forall_mem_cons.mp hmore
    have hnegation : Covered d (.expr .negation e) := .rise (by decide) he
    exact ih (.binary (by decide) hsign (hop d hd) hfirst hnegation
      ⟨and_encloses first, and_encloses e⟩) hmore

/-- The equalities of entries, in order. -/
theorem mapM_equality {entries : List (String × Value)} (h : ∀ entry ∈ entries, IsEntry entry) :
    ∃ es es', entries.mapM (fun entry => equality entry.1 entry.2) = .ok es ∧
      List.Forall₂ Equates entries es' ∧ ∀ d ∈ Dialect.all, List.Forall₂ (SameText d) es es' ∧
        ∀ e ∈ es', Covered d (.expr .equality e) := by
  induction entries with
  | nil => exact ⟨[], [], rfl, .nil, fun d hd => ⟨.nil, nofun⟩⟩
  | cons entry entries ih =>
    obtain ⟨hentry, hentries⟩ := List.forall_mem_cons.mp h
    obtain ⟨e, e', he, hequates, hread⟩ := equality_eq hentry
    obtain ⟨es, es', hes, hall, hreads⟩ := ih hentries
    refine ⟨e :: es, e' :: es', ?_, .cons hequates hall, fun d hd => ?_⟩
    · rw [List.mapM_cons, he, hes]
      rfl
    · obtain ⟨htext, hcovered⟩ := hread d hd
      obtain ⟨htexts, hcovereds⟩ := hreads d hd
      exact ⟨.cons htext htexts, List.forall_mem_cons.mpr ⟨hcovered, hcovereds⟩⟩

end Condition

/-- The condition of entries is printed like a conjunction of their equalities that is covered. -/
theorem buildCondition_eq {entries : List (String × Value)} (hne : entries ≠ [])
    (h : ∀ entry ∈ entries, Condition.IsEntry entry) :
    ∃ e first more, buildCondition entries = .ok (some e) ∧
      List.Forall₂ Condition.Equates entries (first :: more) ∧ ∀ d ∈ Dialect.all,
        SameText d e (Condition.conjunction first more) ∧
          Covered d (.expr .disjunction (Condition.conjunction first more)) := by
  obtain ⟨es, es', hes, hequates, hread⟩ := Condition.mapM_equality h
  obtain ⟨entry, entries, rfl⟩ := List.exists_cons_of_ne_nil hne
  cases hequates with
  | @cons _ first _ more hfirst hmore =>
    obtain ⟨e, es, rfl⟩ : ∃ x xs, es = x :: xs := by
      cases (hread .generic Dialect.generic_mem).1 with
      | cons => exact ⟨_, _, rfl⟩
    refine ⟨Condition.conjunction e es, first, more, ?_, .cons hfirst hmore, fun d hd => ?_⟩
    · rw [buildCondition, hes]
      rfl
    · obtain ⟨htexts, hcovered⟩ := hread d hd
      obtain ⟨hcovered, hcovereds⟩ := List.forall_mem_cons.mp hcovered
      have hconjunction := Condition.covered_conjunction hd (hcovered.above _ (by decide)) hcovereds
      cases htexts with
      | cons htext htexts =>
        exact ⟨Condition.SameText.conjunction htext htexts, .rise (by decide) hconjunction⟩

end Sql

end QueryBook
