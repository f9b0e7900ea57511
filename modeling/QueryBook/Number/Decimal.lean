/-!
# Decimal numbers

A decimal number keeps its coefficient and its exponent apart, so that `1.5` and `1.50` are
written differently. Finite ones are written in the scientific form of the General Decimal
Arithmetic: positionally where the exponent is not positive and the number is not tiny, in
powers of ten elsewhere.
-/

namespace QueryBook

/-- A decimal number, or one of the special values of decimal arithmetic. -/
inductive Decimal where
  /-- The number `± coefficient * 10 ^ exponent`; zero keeps its sign and its exponent. -/
  | finite (negative : Bool) (coefficient : Nat) (exponent : Int)
  | infinite (negative : Bool)
  /-- Not a number, with its diagnostic payload. -/
  | nan (negative signaling : Bool) (payload : Nat)
  deriving DecidableEq, Repr

namespace Decimal

/-- The decimal digits of a number, without leading zeros; zero has one digit. -/
def digits (n : Nat) : List Char :=
  Nat.toDigits 10 n

/-- The exponent of the leading digit. -/
def adjusted (coefficient : Nat) (exponent : Int) : Int :=
  exponent + (digits coefficient).length - 1

/-- Digits with a point before the last `places` of them, and zeros where they are short. -/
def positional (ds : List Char) (places : Nat) : List Char :=
  let padded := List.replicate (places + 1 - ds.length) '0' ++ ds
  if places = 0 then padded
  else padded.take (padded.length - places) ++ '.' :: padded.drop (padded.length - places)

/-- An integer with its sign always written. -/
def signed (n : Int) : List Char :=
  (if n < 0 then '-' else '+') :: digits n.natAbs

/-- Digits with a point behind the first of them, if there are more. -/
def leading : List Char → List Char
  | [] => []
  | [d] => [d]
  | d :: ds => d :: '.' :: ds

/-- The written form of a coefficient and an exponent. -/
def magnitude (coefficient : Nat) (exponent : Int) : List Char :=
  let ds := digits coefficient
  let adj := adjusted coefficient exponent
  if exponent ≤ 0 ∧ -6 ≤ adj then positional ds exponent.natAbs
  else leading ds ++ 'E' :: signed adj

/-- The minus sign of a negative number. -/
def sign (negative : Bool) : List Char :=
  if negative then ['-'] else []

/-- The written form of a decimal number. -/
def text : Decimal → List Char
  | finite s c e => sign s ++ magnitude c e
  | infinite s => sign s ++ "Infinity".toList
  | nan s signaling payload =>
    sign s ++ (if signaling then "sNaN" else "NaN").toList ++
      (if payload = 0 then [] else digits payload)

/-- Whether the number is below zero; negative zero is not. -/
def isNegative : Decimal → Bool
  | finite s c _ => s && c != 0
  | infinite s => s
  | nan .. => false

/-- Whether the written form is a plain integer: digits, and at most a sign. -/
def isInteger : Decimal → Bool
  | finite _ _ e => e == 0
  | _ => false

/-! ## Rounding to a working precision -/

/-- The power of a base; a negative exponent counts as zero, so that a power and that of the
opposite exponent are the two terms of a fraction. -/
def power (base : Nat) (exponent : Int) : Nat :=
  Nat.pow base exponent.toNat

/-- The quotient rounded to the nearest integer, a half going to the even neighbour. -/
def roundDiv (n d : Nat) : Nat :=
  let q := n / d
  let r := n % d
  if 2 * r < d ∨ 2 * r = d ∧ q % 2 = 0 then q else q + 1

/-- The working precision of arithmetic on decimals: significant digits, and the range of
exponents that the leading digit may have. -/
structure Precision where
  digits : Nat
  least : Int
  greatest : Int

/-- Twenty-eight digits, and exponents of up to six digits. -/
def working : Precision := ⟨28, -999999, 999999⟩

/-- A nonzero magnitude rounded to the precision: cut to its digits and to its finest exponent,
half to even. A magnitude beyond the greatest exponent has no rounded form. -/
def roundMagnitude (p : Precision) (c : Nat) (e : Int) : Option (Nat × Int) :=
  let finest := p.least - p.digits + 1
  let last := max (e + (digits c).length - p.digits) finest
  let cut := roundDiv c (power 10 (last - e))
  let rounded :=
    if last ≤ e then (c, e)
    else if (digits cut).length ≤ p.digits then (cut, last)
    else (cut / 10, last + 1)
  if adjusted rounded.1 rounded.2 ≤ p.greatest then some rounded else none

/-- The absolute value in the working precision, if it has one. -/
def abs? : Decimal → Option Decimal
  | finite _ 0 e => some (finite false 0 e)
  | finite _ c e => (roundMagnitude working c e).map fun r => finite false r.1 r.2
  | infinite _ => some (infinite false)
  | nan .. => none

example : String.ofList (finite false 150 (-2)).text = "1.50" := by decide +kernel
example : String.ofList (finite true 1 5).text = "-1E+5" := by decide +kernel
example : String.ofList (finite false 1 (-7)).text = "1E-7" := by decide +kernel
example : String.ofList (finite false 0 3).text = "0E+3" := by decide +kernel
example : String.ofList (finite false 0 (-3)).text = "0.000" := by decide +kernel

end Decimal

end QueryBook
