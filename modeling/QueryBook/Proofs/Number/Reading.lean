import Mathlib.Algebra.Order.Field.Rat
import Mathlib.Tactic.FieldSimp
import Mathlib.Tactic.Linarith
import Mathlib.Tactic.Ring
import QueryBook.Number.Basic

/-!
# The number that a numeral denotes

A numeral is read as SQL reads it: a minus sign perhaps, digits with at most one point, and
perhaps an exponent of ten (`Numeral.value?`). Doubles and decimals have several written forms, and
which one is chosen depends on digits and exponent; the number is the same in all of them
(`Decimal.value?_text`, `Double.value?_text`).
-/

namespace QueryBook

namespace Numeral

/-- The number of a run of digits. -/
def whole (ds : List Char) : ℕ :=
  Nat.ofDigitChars 10 ds 0

/-- The number of a run of digits that is all of the text. -/
def whole? (ds : List Char) : Option ℕ :=
  if ds ≠ [] ∧ ds.all Char.isDigit then some (whole ds) else none

/-- The number of digits behind a sign, if there is one. -/
def signed? : List Char → Option ℤ
  | '-' :: ds => (whole? ds).map fun n : ℕ => -(n : ℤ)
  | '+' :: ds => (whole? ds).map fun n : ℕ => (n : ℤ)
  | ds => (whole? ds).map fun n : ℕ => (n : ℤ)

/-- The exponent that a numeral ends with; there may be none. -/
def exponent? : List Char → Option ℤ
  | [] => some 0
  | mark :: cs => if mark = 'e' ∨ mark = 'E' then signed? cs else none

/-- The digits behind a point, if there is one, and what follows them. -/
def fraction : List Char → List Char × List Char
  | '.' :: cs => (cs.takeWhile Char.isDigit, cs.dropWhile Char.isDigit)
  | cs => ([], cs)

/-- The number of a numeral without a sign. -/
def magnitude? (cs : List Char) : Option ℚ :=
  let front := cs.takeWhile Char.isDigit
  let (part, behind) := fraction (cs.dropWhile Char.isDigit)
  if front ++ part = [] then none
  else (exponent? behind).map fun e : ℤ => whole (front ++ part) * (10 : ℚ) ^ (e - part.length)

/-- The number that a numeral denotes. -/
def value? : List Char → Option ℚ
  | '-' :: cs => (magnitude? cs).map (-·)
  | cs => magnitude? cs

/-! ## Runs of digits -/

/-- A text of digits only. -/
def IsDigits (ds : List Char) : Prop :=
  ∀ c ∈ ds, c.isDigit = true

theorem IsDigits.append {ds es : List Char} (hd : IsDigits ds) (he : IsDigits es) :
    IsDigits (ds ++ es) :=
  fun c hc => (List.mem_append.1 hc).elim (hd c) (he c)

theorem IsDigits.tail {c : Char} {ds : List Char} (h : IsDigits (c :: ds)) : IsDigits ds :=
  fun c hc => h c (List.mem_cons_of_mem _ hc)

theorem isDigits_digits (n : ℕ) : IsDigits (Decimal.digits n) :=
  fun _ => Nat.isDigit_of_mem_toDigits (by decide) (by decide)

theorem digits_ne_nil (n : ℕ) : Decimal.digits n ≠ [] :=
  Nat.toDigits_ne_nil

theorem isDigits_replicate (n : ℕ) : IsDigits (List.replicate n '0') := by
  intro c hc
  rw [(List.mem_replicate.1 hc).2]
  decide

/-- Leading zeros do not count. -/
theorem whole_padded (k : ℕ) (ds : List Char) : whole (List.replicate k '0' ++ ds) = whole ds := by
  rw [whole, Nat.ofDigitChars_append, Nat.ofDigitChars_replicate_zero]
  simp [whole]

@[simp] theorem whole_digits (n : ℕ) : whole (Decimal.digits n) = n :=
  Nat.ofDigitChars_ten_toDigits

theorem takeWhile_digits {ds t : List Char} (hd : IsDigits ds)
    (ht : t.head?.all fun c => !c.isDigit) :
    (ds ++ t).takeWhile Char.isDigit = ds ∧ (ds ++ t).dropWhile Char.isDigit = t := by
  have hend : t.takeWhile Char.isDigit = [] ∧ t.dropWhile Char.isDigit = t := by
    cases t with
    | nil => exact ⟨rfl, rfl⟩
    | cons c t => simp_all
  rw [List.takeWhile_append_of_pos hd, List.dropWhile_append_of_pos hd, hend.1, hend.2,
    List.append_nil]
  exact ⟨rfl, rfl⟩

theorem whole?_of_isDigits {ds : List Char} (hne : ds ≠ []) (hd : IsDigits ds) :
    whole? ds = some (whole ds) :=
  if_pos ⟨hne, List.all_eq_true.2 hd⟩

/-! ## Exponents -/

/-- The exponent behind its letter and its sign. -/
theorem exponent?_signed {mark : Char} (hmark : mark = 'e' ∨ mark = 'E') {n : ℤ} {ds : List Char}
    (hne : ds ≠ []) (hd : IsDigits ds) (hn : whole ds = n.natAbs) :
    exponent? (mark :: (if n < 0 then '-' else '+') :: ds) = some n := by
  rw [exponent?, if_pos hmark]
  by_cases hneg : n < 0
  · rw [if_pos hneg, signed?, whole?_of_isDigits hne hd, hn, Option.map_some]
    exact congrArg some (by omega)
  · rw [if_neg hneg, signed?, whole?_of_isDigits hne hd, hn, Option.map_some]
    exact congrArg some (by omega)

/-- What ends a run of digits and begins no fraction. -/
def Ends (t : List Char) : Prop :=
  t.head?.all fun c => c != '.' && !c.isDigit

theorem ends_exponent {mark : Char} (hmark : mark = 'e' ∨ mark = 'E') (t : List Char) :
    Ends (mark :: t) := by
  rcases hmark with rfl | rfl <;> rfl

/-! ## Numerals by their form -/

theorem magnitude?_front {front t : List Char} {e : ℤ} (hne : front ≠ []) (hd : IsDigits front)
    (ht : Ends t) (he : exponent? t = some e) :
    magnitude? (front ++ t) = some (whole front * (10 : ℚ) ^ e) := by
  have hnodigit : t.head?.all fun c => !c.isDigit := by cases t <;> simp_all [Ends]
  have hfraction : fraction t = ([], t) := by
    unfold fraction
    split
    · simp [Ends] at ht
    · rfl
  have hsplit := takeWhile_digits hd hnodigit
  simp [magnitude?, hsplit, hfraction, he, hne]

theorem magnitude?_point (front part : List Char) {t : List Char} {e : ℤ} (hne : front ≠ [])
    (hd : IsDigits front) (hp : IsDigits part) (ht : Ends t) (he : exponent? t = some e) :
    magnitude? (front ++ '.' :: (part ++ t)) =
      some (whole (front ++ part) * (10 : ℚ) ^ (e - part.length)) := by
  have hnodigit : t.head?.all fun c => !c.isDigit := by cases t <;> simp_all [Ends]
  have hsplit := takeWhile_digits hd (t := '.' :: (part ++ t)) rfl
  have hpart := takeWhile_digits hp hnodigit
  simp [magnitude?, hsplit, fraction, hpart, he, hne]

/-- Digits with a point before the last of them. -/
theorem magnitude?_positional (c places : ℕ) :
    magnitude? (Decimal.positional (Decimal.digits c) places) =
      some (c * (10 : ℚ) ^ (-(places : ℤ))) := by
  set padded := List.replicate (places + 1 - (Decimal.digits c).length) '0' ++ Decimal.digits c
    with hpadded
  have hdigits : IsDigits padded := (isDigits_replicate _).append (isDigits_digits c)
  have hwhole : whole padded = c := by rw [hpadded, whole_padded, whole_digits]
  have hlength : places < padded.length := by
    rw [hpadded, List.length_append, List.length_replicate]
    omega
  unfold Decimal.positional
  simp only [← hpadded]
  split
  case isTrue hzero =>
    have hread := magnitude?_front (t := []) (List.ne_nil_of_length_pos (by omega)) hdigits rfl rfl
    rw [List.append_nil, hwhole] at hread
    simpa [hzero] using hread
  case isFalse =>
    have hread := magnitude?_point (padded.take (padded.length - places))
      (padded.drop (padded.length - places)) (t := [])
      (List.ne_nil_of_length_pos (by rw [List.length_take]; omega))
      (fun c hc => hdigits c (List.mem_of_mem_take hc))
      (fun c hc => hdigits c (List.mem_of_mem_drop hc)) rfl rfl
    rw [List.append_nil, List.take_append_drop, hwhole, List.length_drop] at hread
    rw [hread, show padded.length - (padded.length - places) = places by omega, zero_sub]

/-- Digits with a point behind the first of them, and an exponent. -/
theorem magnitude?_leading {ds t : List Char} {e : ℤ} (hne : ds ≠ []) (hd : IsDigits ds)
    (ht : Ends t) (he : exponent? t = some e) :
    magnitude? (Decimal.leading ds ++ t) =
      some (whole ds * (10 : ℚ) ^ (e - (ds.length - 1 : ℤ))) := by
  match ds with
  | [d] => simpa [Decimal.leading] using magnitude?_front hne hd ht he
  | d :: d' :: ds =>
    have hread := magnitude?_point [d] (d' :: ds) (by simp)
      (fun c hc => hd c (by simp_all)) hd.tail ht he
    simpa [Decimal.leading] using hread

theorem value?_sign {t : List Char} {q : ℚ} (h : magnitude? t = some q) (negative : Bool) :
    value? (Decimal.sign negative ++ t) = some (if negative then -q else q) := by
  cases negative with
  | true => simp [Decimal.sign, value?, h]
  | false =>
    rw [Decimal.sign, if_neg (by decide), List.nil_append]
    unfold value?
    split
    case h_1 cs => simp [magnitude?, fraction] at h
    case h_2 => simpa using h

end Numeral

open Numeral

namespace Decimal

/-- The number of a decimal that is finite. -/
def value (negative : Bool) (c : ℕ) (e : ℤ) : ℚ :=
  if negative then -(c * (10 : ℚ) ^ e) else c * (10 : ℚ) ^ e

theorem length_digits_pos (n : ℕ) : 0 < (digits n).length :=
  Nat.length_toDigits_pos

/-- The exponent of the leading digit less the number of the digits behind it. -/
theorem adjusted_sub (c : ℕ) (e : ℤ) : adjusted c e - ((digits c).length - 1 : ℤ) = e := by
  rw [adjusted]
  omega

theorem magnitude?_magnitude (c : ℕ) (e : ℤ) :
    magnitude? (magnitude c e) = some (c * (10 : ℚ) ^ e) := by
  simp only [magnitude]
  split
  case isTrue h =>
    rw [magnitude?_positional]
    rw [show -((e.natAbs : ℕ) : ℤ) = e by omega]
  case isFalse =>
    have hexp : exponent? ('E' :: signed (adjusted c e)) = some (adjusted c e) :=
      exponent?_signed (.inr rfl) (digits_ne_nil _) (isDigits_digits _) (whole_digits _)
    rw [magnitude?_leading (digits_ne_nil c) (isDigits_digits c) (ends_exponent (.inr rfl) _) hexp,
      adjusted_sub]
    exact congrArg (fun n : ℕ => some ((n : ℚ) * 10 ^ e)) (whole_digits c)

/-- The written form of a finite decimal denotes its number. -/
theorem value?_text (s : Bool) (c : ℕ) (e : ℤ) :
    value? (finite s c e).text = some (value s c e) := by
  rw [text, value?_sign (magnitude?_magnitude c e), value]

/-- The digits of an integer behind its sign denote it. -/
theorem value?_intText (n : ℤ) : value? (Number.intText n) = some (n : ℚ) := by
  have hdigits : magnitude? (digits n.natAbs) = some (n.natAbs : ℚ) := by
    have hread := magnitude?_front (t := []) (digits_ne_nil n.natAbs) (isDigits_digits _) rfl rfl
    rwa [List.append_nil, whole_digits, zpow_zero, mul_one] at hread
  rw [Number.intText, value?_sign hdigits]
  by_cases hneg : n < 0
  · have habs : (n.natAbs : ℤ) = -n := by omega
    simp [hneg, ← Int.cast_natCast (R := ℚ), habs]
  · have habs : (n.natAbs : ℤ) = n := by omega
    simp [hneg, ← Int.cast_natCast (R := ℚ), habs]

end Decimal

namespace Double

theorem whole_exponentDigits (n : ℕ) : whole (exponentDigits n) = n := by
  rw [exponentDigits, whole_padded, whole_digits]

theorem magnitude?_magnitudeText {c : ℕ} {k : ℤ}
    (h : isPositional (Decimal.adjusted c k) = true → k ≤ 0) :
    magnitude? (magnitudeText c k) = some (c * (10 : ℚ) ^ k) := by
  simp only [magnitudeText]
  split
  case isTrue hpos =>
    have := h hpos
    rw [magnitude?_positional]
    rw [show -((k.natAbs : ℕ) : ℤ) = k by omega]
  case isFalse =>
    set adj := Decimal.adjusted c k
    have hexp : exponent? ('e' :: (if adj < 0 then '-' else '+') :: exponentDigits adj.natAbs) =
        some adj :=
      exponent?_signed (.inl rfl) (by simp [exponentDigits, digits_ne_nil])
        ((isDigits_replicate _).append (isDigits_digits _)) (whole_exponentDigits _)
    rw [magnitude?_leading (digits_ne_nil c) (isDigits_digits c) (ends_exponent (.inl rfl) _) hexp,
      Decimal.adjusted_sub]
    exact congrArg (fun n : ℕ => some ((n : ℚ) * 10 ^ k)) (whole_digits c)

/-- A double that is written positionally has digits behind the point. -/
theorem toDecimal_positional {x : Double} {s : Bool} {c : ℕ} {k : ℤ}
    (h : x.toDecimal = .finite s c k) (hpos : isPositional (Decimal.adjusted c k) = true) :
    k ≤ 0 := by
  unfold toDecimal at h
  split at h
  · cases h
  · cases h
  · dsimp only at h
    split at h
    case isTrue =>
      cases h
      decide
    case isFalse hlarge =>
      cases h
      simp only [Bool.and_eq_true, decide_eq_true_eq, not_and] at hlarge
      exact (not_le.1 (hlarge hpos)).le

/-- The written form of a finite double denotes the decimal that it is written as. -/
theorem value?_text {x : Double} {s : Bool} {c : ℕ} {k : ℤ} (h : x.toDecimal = .finite s c k) :
    value? x.text = some (Decimal.value s c k) := by
  rw [text, h]
  exact value?_sign (magnitude?_magnitudeText (toDecimal_positional h)) s

end Double

end QueryBook
