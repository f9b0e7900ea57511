import QueryBook.Proofs.Number.Reading
import QueryBook.Proofs.Number.Text
import QueryBook.Proofs.Sql.Covered

/-!
# Written numbers are single numerals

The text of a finite number is a numeral behind a minus sign, if there is one (`exists_numeral`): its
digits, its point and its exponent are cut off as one lexeme, whichever of its forms it is written in.
-/

namespace QueryBook

open Numeral

namespace Sql.Lexer

/-- A text that is read as the rest of a number, up to its end. -/
def IsRest (point : Bool) (exponent : ℕ) (cs : List Char) : Prop :=
  number point exponent cs = (cs, [])

theorem IsRest.nil (point : Bool) (exponent : ℕ) : IsRest point exponent [] := rfl

theorem IsRest.digits {point : Bool} {exponent : ℕ} {ds t : List Char} (hd : IsDigits ds)
    (ht : IsRest point exponent t) : IsRest point exponent (ds ++ t) := by
  induction ds with
  | nil => exact ht
  | cons d ds ih =>
    obtain ⟨hdigit, hds⟩ := List.forall_mem_cons.mp hd
    have hmore : number point exponent (ds ++ t) = (ds ++ t, []) := ih hds
    simp [IsRest, number, hdigit, hmore]

theorem IsRest.of_isDigits {ds : List Char} (hd : IsDigits ds) (point : Bool) (exponent : ℕ) :
    IsRest point exponent ds := by
  have hrest := IsRest.digits hd (.nil point exponent)
  rwa [List.append_nil] at hrest

theorem IsRest.point {t : List Char} (ht : IsRest true 0 t) : IsRest false 0 ('.' :: t) := by
  rw [IsRest] at ht
  simp [IsRest, number, ht]

/-- An exponent: a letter, a sign and digits. -/
theorem IsRest.exponent {mark sign : Char} {ds : List Char} (point : Bool)
    (hmark : mark = 'E' ∨ mark = 'e') (hsign : sign = '-' ∨ sign = '+') (hne : ds ≠ [])
    (hd : IsDigits ds) : IsRest point 0 (mark :: sign :: ds) := by
  have hhead : ds.head?.any Char.isDigit = true := by
    obtain ⟨d, ds, rfl⟩ := List.exists_cons_of_ne_nil hne
    exact hd d List.mem_cons_self
  have hrest : number point 2 ds = (ds, []) := IsRest.of_isDigits hd point 2
  have hsigned : IsRest point 1 (sign :: ds) := by
    rcases hsign with rfl | rfl <;> simp [IsRest, number, hhead, hrest]
  generalize sign :: ds = t at hsigned
  rw [IsRest] at hsigned
  rcases hmark with rfl | rfl <;> simp [IsRest, number, hsigned]

/-- A text that begins with a digit and is read as a number up to its end. -/
theorem isNumeral_cons {d : Char} {cs : List Char} (hd : d.isDigit = true)
    (h : IsRest false 0 cs) : isNumeral (String.ofList (d :: cs)) = true := by
  rw [IsRest] at h
  simp [isNumeral, hd, h]

theorem isNumeral_digits {ds : List Char} (hne : ds ≠ []) (hd : IsDigits ds) :
    isNumeral (String.ofList ds) = true := by
  obtain ⟨d, ds, rfl⟩ := List.exists_cons_of_ne_nil hne
  exact isNumeral_cons (hd d List.mem_cons_self) (.of_isDigits hd.tail false 0)

theorem isNumeral_positional {ds : List Char} (hd : IsDigits ds) (places : ℕ) :
    isNumeral (String.ofList (Decimal.positional ds places)) = true := by
  unfold Decimal.positional
  set padded := List.replicate (places + 1 - ds.length) '0' ++ ds with hpadded
  have hall : IsDigits padded := (isDigits_replicate _).append hd
  have hlength : places < padded.length := by
    rw [hpadded, List.length_append, List.length_replicate]
    omega
  dsimp only
  split
  case isTrue => exact isNumeral_digits (List.ne_nil_of_length_pos (by omega)) hall
  case isFalse =>
    have hfront : IsDigits (padded.take (padded.length - places)) :=
      fun c hc => hall c (List.mem_of_mem_take hc)
    have hback : IsDigits (padded.drop (padded.length - places)) :=
      fun c hc => hall c (List.mem_of_mem_drop hc)
    have hne : padded.take (padded.length - places) ≠ [] :=
      List.ne_nil_of_length_pos (by rw [List.length_take]; omega)
    obtain ⟨d, ds, hds⟩ := List.exists_cons_of_ne_nil hne
    rw [hds] at hfront ⊢
    exact isNumeral_cons (hfront d List.mem_cons_self)
      (.digits hfront.tail (.point (.of_isDigits hback true 0)))

/-- Digits, with a point behind the first if there are more, and an exponent. -/
theorem isNumeral_scientific {ds es : List Char} {mark sign : Char} (hne : ds ≠ [])
    (hd : IsDigits ds) (hmark : mark = 'E' ∨ mark = 'e') (hsign : sign = '-' ∨ sign = '+')
    (hne' : es ≠ []) (he : IsDigits es) :
    isNumeral (String.ofList (Decimal.leading ds ++ mark :: sign :: es)) = true := by
  obtain ⟨d, ds, rfl⟩ := List.exists_cons_of_ne_nil hne
  have hdigit := hd d List.mem_cons_self
  cases ds with
  | nil => exact isNumeral_cons hdigit (.exponent false hmark hsign hne' he)
  | cons d' ds =>
    exact isNumeral_cons hdigit (.point (.digits hd.tail (.exponent true hmark hsign hne' he)))

theorem isNumeral_magnitude (c : ℕ) (e : ℤ) :
    isNumeral (String.ofList (Decimal.magnitude c e)) = true := by
  have hdigits := isDigits_digits c
  unfold Decimal.magnitude
  dsimp only
  split
  · exact isNumeral_positional hdigits _
  · exact isNumeral_scientific (digits_ne_nil c) hdigits (.inl rfl) (Number.sign_eq _)
      (digits_ne_nil _) (isDigits_digits _)

theorem isNumeral_magnitudeText (c : ℕ) (k : ℤ) :
    isNumeral (String.ofList (Double.magnitudeText c k)) = true := by
  have hdigits := isDigits_digits c
  unfold Double.magnitudeText
  dsimp only
  split
  · exact isNumeral_positional hdigits _
  · exact isNumeral_scientific (digits_ne_nil c) hdigits (.inr rfl) (Number.sign_eq _)
      (by simp [Double.exponentDigits, digits_ne_nil])
      ((isDigits_replicate _).append (isDigits_digits _))

/-- The text of a finite number is a numeral, perhaps behind a minus sign. -/
theorem exists_numeral {n : Number} (h : n.IsFinite) :
    ∃ isNegative cs, n.text = Decimal.sign isNegative ++ cs ∧
      isNumeral (String.ofList cs) = true := by
  cases n with
  | int i => exact ⟨_, _, rfl, isNumeral_digits (digits_ne_nil _) (isDigits_digits _)⟩
  | double x =>
    obtain ⟨s, m, q, evenGap, hshape⟩ := h
    obtain ⟨c, k, hdecimal⟩ := Number.toDecimal_finite hshape
    exact ⟨s, _, by rw [Number.text, Double.text, hdecimal], isNumeral_magnitudeText c k⟩
  | decimal d =>
    obtain ⟨s, c, e, rfl⟩ := h
    exact ⟨s, _, rfl, isNumeral_magnitude c e⟩
  | fraction => exact h.elim
  | complex => exact h.elim

/-- A numeral begins with a digit. -/
theorem exists_digit_of_isNumeral {cs : List Char} (h : isNumeral (String.ofList cs) = true) :
    ∃ d ds, cs = d :: ds ∧ d.isDigit = true := by
  cases cs with
  | nil => simp [isNumeral] at h
  | cons d ds =>
    rw [isNumeral, String.toList_ofList] at h
    exact ⟨d, ds, rfl, (Bool.and_eq_true_iff.mp h).1⟩

end Sql.Lexer

end QueryBook
