import QueryBook.Binding.Literal
import QueryBook.Proofs.Number.Reading
import QueryBook.Proofs.Number.Rounding
import QueryBook.Proofs.Number.Text
import QueryBook.Proofs.Sql.Column
import QueryBook.Proofs.Sql.Edited
import QueryBook.Proofs.Sql.Headed.Printed
import QueryBook.Proofs.Sql.Quoted

/-!
# Literals bound and literals compared

A value can be written into a query in two ways: bound as a parameter, and compared with a column in
a condition. Both refuse the same values and write the same texts, and the numbers that they write
are equal, but for negative decimals: in a condition these are rounded to the working precision,
unless they are written as integers of at most 4300 digits (`literals_agree`).
-/

namespace QueryBook

open Numeral Sql Sql.Condition Sql.Layout
open Decimal (Fits working roundMagnitude digits)

namespace Number

/-- A negative decimal that a condition rounds to another number: it has no form within the
working precision, though it is in its range, and it is not written as an integer whose digits can
all be read. -/
inductive IsRounded : Number → Prop
  | intro {c : ℕ} {e : ℤ} (hform : e = 0 → integerDigits < (digits c).length)
    (hfits : ¬ Fits working c e) (hrange : (roundMagnitude working c e).isSome) :
    IsRounded (.decimal (.finite true c e))

end Number

namespace Sql.Condition

/-! ## Printed literals -/

/-- The text of the literal of a value in a condition. -/
def literalText (v : Value) : Except Failure String :=
  (literal v).map (printExpr .generic)

theorem printExpr_number (cs : List Char) :
    printExpr .generic (.number (String.ofList cs)) = String.ofList cs := by
  simp [printExpr, line, Expr.parts, tight, chars, markChars, Lexeme.chars]

theorem printExpr_negativeLiteral (cs : List Char) :
    printExpr .generic (negativeLiteral cs) = String.ofList ('-' :: cs) := by
  simp [printExpr, line, negativeLiteral, Expr.parts, negated, Part.symbol, tight, chars, markChars,
    Lexeme.chars]

theorem printExpr_text (s : String) :
    printExpr .generic (.text s) = String.ofList (Text.delimited '\'' '\'' s.toList) := by
  have hescape : Dialect.generic.escapeChar = fun c => [c] := by
    funext c
    simp [Dialect.escapeChar, Dialect.generic]
  simp [printExpr, line, Expr.parts, tight, chars, markChars, Lexeme.chars, Dialect.printText,
    hescape]

/-- A literal is never put between parentheses, and a space stands before it. -/
theorem literal_parts {v : Value} {e : Expr} (h : literal v = .ok e) :
    BinaryOp.equal.encloses e = false ∧ e.Headed := by
  have hnumber (cs : List Char) : BinaryOp.equal.encloses (.number (String.ofList cs)) = false ∧
      (Expr.number (String.ofList cs)).Headed :=
    ⟨rfl, trivial⟩
  have hnegative (cs : List Char) : BinaryOp.equal.encloses (negativeLiteral cs) = false ∧
      (negativeLiteral cs).Headed :=
    ⟨rfl, trivial⟩
  have hrounded (cs : List Char) (d : Decimal) :
      BinaryOp.equal.encloses (roundedLiteral cs d) = false ∧ (roundedLiteral cs d).Headed := by
    unfold roundedLiteral
    split
    · exact hnegative _
    · exact hnumber _
  cases v with
  | text s =>
    cases h
    exact ⟨rfl, trivial⟩
  | number n =>
    cases h
    unfold numberLiteral
    split
    · unfold integerLiteral; split <;> simp [hnumber, hnegative]
    · unfold integerLiteral; split <;> simp [hnumber, hnegative]
    · exact hrounded _ _
    · unfold decimalLiteral
      split
      · exact hnegative _
      · exact hrounded _ _
    · exact hnumber _
    · exact hnumber _
  | other k => cases h

/-- In the text of an equality, what stands before the literal does not depend on the value. -/
theorem chars_equality (column : Expr) :
    ∃ left : String, ∀ v e, literal v = .ok e →
      String.ofList (chars .generic ((Expr.binary .equal column e).parts .generic)) =
        left ++ " = " ++ printExpr .generic e := by
  refine ⟨String.ofList (chars .generic
    (operandParts .equal column (column.parts .generic))), fun v e he => ?_⟩
  obtain ⟨hopen, hheaded⟩ := literal_parts he
  have hsign : String.ofList (chars .generic BinaryOp.equal.parts) = " =" := rfl
  have hspace : " =" ++ " " = " = " := rfl
  rw [Expr.parts, operandParts.eq_1 .equal e, hopen, if_neg (by decide), chars_append, chars_append,
    String.ofList_append, String.ofList_append, hsign,
    ofList_chars .generic (hheaded.apart .generic).head_gap, printExpr, ← hspace]
  simp only [String.append_assoc]

/-! ## Conditions -/

theorem buildCondition_one (column : String) (v : Value) :
    buildCondition [(column, v)] = do
      let c ← columnOf column
      let e ← literal v
      return some (.binary .equal c e) := by
  cases hc : columnOf column with
  | error e => simp [buildCondition, equality, hc, bind, Except.bind]
  | ok c =>
    cases he : literal v with
    | error e => simp [buildCondition, equality, hc, he, bind, Except.bind]
    | ok e => simp [buildCondition, equality, hc, he, bind, Except.bind, pure, Except.pure, conjunction]

/-- The edited text depends on the value only by its literal. -/
theorem replaceConditions_literal {sql : String} {s : Select} {column : String} {c : Expr}
    (hsql : sql ≠ "") (hread : parseSelect .generic sql = .ok s) (hcolumn : columnOf column = .ok c) :
    ∃ front left behind : String, ∀ v text, literalText v = .ok text →
      (replaceConditions "" sql [(column, v)]).result =
        .ok (front ++ " WHERE" ++ left ++ " = " ++ text ++ behind) := by
  obtain ⟨front, behind, hprint⟩ := printSelect_filter .generic s
  obtain ⟨left, hleft⟩ := chars_equality c
  refine ⟨front, left, behind, fun v text htext => ?_⟩
  obtain ⟨e, he, rfl⟩ : ∃ e, literal v = .ok e ∧ printExpr .generic e = text := by
    cases he : literal v with
    | error => simp [literalText, he, Except.map] at htext
    | ok e => exact ⟨e, rfl, by simpa [literalText, he, Except.map] using htext⟩
  have hdialect : dialectOf "" = .ok .generic := rfl
  have hselect : readSelect "" sql = ⟨[], .ok (.generic, s)⟩ := by
    rw [readSelect, hdialect, Outcome.ofExcept, Outcome.bind_ok rfl, hread]
    rfl
  have hcondition : buildCondition [(column, v)] = .ok (some (.binary .equal c e)) := by
    rw [buildCondition_one, hcolumn, he]
    rfl
  have hempty : (sql.isEmpty || [(column, v)].isEmpty) = false := by simpa using hsql
  rw [replaceConditions, hempty, if_neg (by decide), hselect, Outcome.bind_ok rfl]
  dsimp only
  rw [hcondition, Outcome.ofExcept, Outcome.bind_ok rfl, Outcome.bind_ok rfl]
  simp only [Outcome.pure_def, hprint, hleft v e he, String.append_assoc]

/-! ## Numbers -/

theorem value?_negative (c : ℕ) (e : ℤ) :
    value? ('-' :: (Decimal.finite false c e).text) = some (-(c * (10 : ℚ) ^ e)) :=
  value?_sign (Decimal.magnitude?_magnitude c e) true

/-- A rounded literal denotes another number only where a negative one is rounded and does not
fit. -/
theorem value?_roundedLiteral {written : List Char} {s : Bool} {c : ℕ} {e : ℤ}
    (hwritten : value? written = some (Decimal.value s c e)) :
    ∃ q, value? (printExpr .generic (roundedLiteral written (.finite s c e))).toList = some q ∧
      (q = Decimal.value s c e ↔
        ¬ (s = true ∧ ¬ Fits working c e ∧ (roundMagnitude working c e).isSome)) := by
  by_cases hneg : s = true ∧ c ≠ 0
  · obtain ⟨rfl, hc⟩ := hneg
    have habs : (Decimal.finite true c e).abs? =
        (roundMagnitude working c e).map fun r => .finite false r.1 r.2 := by
      cases c with
      | zero => exact absurd rfl hc
      | succ c => rfl
    have hnegative : (Decimal.finite true c e).isNegative = true := by simp [Decimal.isNegative, hc]
    unfold roundedLiteral
    rw [hnegative, if_pos rfl, habs]
    cases hround : roundMagnitude working c e with
    | none =>
      rw [Option.map_none, printExpr_number, String.toList_ofList]
      exact ⟨_, hwritten, by simp⟩
    | some r =>
      have hexact := Decimal.roundMagnitude_exact_iff (by decide) hc hround
      rw [Option.map_some]
      dsimp only
      rw [printExpr_negativeLiteral, String.toList_ofList, value?_negative]
      refine ⟨_, rfl, ?_⟩
      simp [Decimal.value, hexact]
  · have hnonneg : (Decimal.finite s c e).isNegative = false := by
      simpa [Decimal.isNegative] using hneg
    have hkept : roundedLiteral written (.finite s c e) = .number (String.ofList written) := by
      unfold roundedLiteral
      rw [hnonneg]
      rfl
    rw [hkept, printExpr_number, String.toList_ofList]
    refine ⟨_, hwritten, iff_of_true rfl ?_⟩
    rintro ⟨rfl, hfits, -⟩
    obtain rfl : c = 0 := by simpa using hneg
    exact hfits ⟨0, 0, by decide, by decide, by simp⟩

theorem printExpr_integerLiteral (i : ℤ) :
    printExpr .generic (integerLiteral i) = String.ofList (Number.intText i) := by
  unfold integerLiteral Number.intText
  by_cases hi : i < 0
  · rw [if_pos hi, printExpr_negativeLiteral]
    simp [Decimal.sign, hi]
  · rw [if_neg hi, printExpr_number]
    simp [Decimal.sign, hi]

theorem magnitude_zero (c : ℕ) : Decimal.magnitude c 0 = digits c := by
  have hpos : 0 < (digits c).length := Decimal.length_digits_pos c
  have hadj : (-6 : ℤ) ≤ Decimal.adjusted c 0 := by
    rw [Decimal.adjusted]
    omega
  simp only [Decimal.magnitude, le_refl, hadj, and_self, if_true, Int.natAbs_zero,
    Decimal.positional]
  rw [show 0 + 1 - (digits c).length = 0 by omega]
  rfl

/-- A decimal that is written as an integer of not too many digits is kept; others are rounded. -/
theorem decimalLiteral_cases (s : Bool) (c : ℕ) (e : ℤ) :
    printExpr .generic (decimalLiteral (.finite s c e)) =
        String.ofList (Decimal.finite s c e).text ∧ ¬ Number.IsRounded (.decimal (.finite s c e)) ∨
      decimalLiteral (.finite s c e) =
        roundedLiteral (Decimal.finite s c e).text (.finite s c e) ∧
        (s = true → c ≠ 0 → e = 0 → integerDigits < (digits c).length) := by
  unfold decimalLiteral
  split
  case isTrue h =>
    simp only [Decimal.isNegative, Decimal.isInteger, Bool.and_eq_true, beq_iff_eq,
      decide_eq_true_eq] at h
    obtain ⟨⟨⟨rfl, -⟩, rfl⟩, hlength⟩ := h
    have htext : (Decimal.finite true c 0).text = '-' :: digits c := by
      rw [Decimal.text, magnitude_zero]
      rfl
    rw [htext] at hlength ⊢
    refine .inl ⟨printExpr_negativeLiteral _, fun hrounded => ?_⟩
    cases hrounded with
    | intro hform => exact absurd (hform rfl) (not_lt.2 hlength)
  case isFalse h =>
    refine .inr ⟨rfl, ?_⟩
    rintro rfl hc rfl
    have htext : (Decimal.finite true c 0).text = '-' :: digits c := by
      rw [Decimal.text, magnitude_zero]
      rfl
    simpa [Decimal.isNegative, Decimal.isInteger, hc, htext] using h

/-- The literal of a finite number in a condition denotes the number that its written form denotes,
unless the number is rounded. -/
theorem literalText_number {n : Number} (hn : n.IsFinite) :
    ∃ text q q', literalText (.number n) = .ok text ∧ value? n.text = some q ∧
      value? text.toList = some q' ∧ (q' = q ↔ ¬ n.IsRounded) := by
  cases n with
  | int i =>
    refine ⟨_, i, i, rfl, Decimal.value?_intText i, ?_, iff_of_true rfl nofun⟩
    rw [numberLiteral, printExpr_integerLiteral, String.toList_ofList]
    exact Decimal.value?_intText i
  | double x =>
    obtain ⟨s, m, q, evenGap, hshape⟩ := hn
    obtain ⟨c, k, hdecimal⟩ := Number.toDecimal_finite hshape
    have hwritten := Double.value?_text hdecimal
    obtain ⟨q', hq', hiff⟩ := value?_roundedLiteral hwritten
    have hfits := Double.fits_toDecimal hdecimal
    refine ⟨_, _, q', rfl, hwritten, ?_, iff_of_true (hiff.2 fun h => h.2.1 hfits) nofun⟩
    rwa [← hdecimal] at hq'
  | decimal d =>
    obtain ⟨s, c, e, rfl⟩ := hn
    have hwritten := Decimal.value?_text s c e
    rcases decimalLiteral_cases s c e with ⟨htext, hkept⟩ | ⟨hliteral, hform⟩
    · refine ⟨_, _, _, rfl, hwritten, ?_, iff_of_true rfl hkept⟩
      rw [numberLiteral, htext, String.toList_ofList]
      exact hwritten
    · obtain ⟨q', hq', hiff⟩ := value?_roundedLiteral hwritten
      refine ⟨_, _, q', rfl, hwritten, ?_, hiff.trans (not_congr ?_)⟩
      · rwa [← hliteral] at hq'
      · constructor
        · rintro ⟨rfl, hfits, hrange⟩
          refine .intro (hform rfl ?_) hfits hrange
          rintro rfl
          exact hfits ⟨0, 0, by decide, by decide, by simp⟩
        · rintro ⟨-, hfits, hrange⟩
          exact ⟨rfl, hfits, hrange⟩
  | fraction => exact hn.elim
  | complex => exact hn.elim

theorem literalText_text (s : String) :
    literalText (.text s) = .ok (String.ofList (Text.delimited '\'' '\'' s.toList)) := by
  rw [literalText, literal, Except.map, printExpr_text]

theorem literal_error_iff {v : Value} {e : Failure} :
    literal v = .error e ↔ ∃ k, v = .other k ∧ e = .incomparable k := by
  cases v <;> simp [literal, eq_comm]

end Sql.Condition

open Lexer (IsWordText quoted quoted_doubled)

theorem renderLiteral_error_iff {v : Value} {e : Failure} :
    renderLiteral v = .error e ↔ ∃ k, v = .other k ∧ e = .unrenderable k := by
  cases v <;> simp [renderLiteral, Value.literal?, eq_comm]

theorem buildCondition_error_iff {column : String} (hcolumn : IsWordText column.toList) {v : Value}
    {e : Failure} :
    buildCondition [(column, v)] = .error e ↔ ∃ k, v = .other k ∧ e = .incomparable k := by
  obtain ⟨c, hc⟩ := columnOf_isOk hcolumn
  rw [buildCondition_one, hc, ← literal_error_iff]
  cases literal v <;> simp [bind, Except.bind, pure, Except.pure]

end QueryBook
