import QueryBook.Number.Decimal

/-!
# Double precision numbers

A double is its 64 bits. `Double.shortest` gives the decimal with the fewest digits that
reads back as the same double, and the nearest of those; the search runs over the decimal
grids from coarse to fine and takes the first that has a point in the interval of numbers
which round to the double. `Double.toDecimal` is that decimal as it is written: a fraction
of at least one digit where the exponent allows positional notation.
-/

namespace QueryBook

/-- A double precision number, as its bits. -/
structure Double where
  bits : UInt64
  deriving DecidableEq, Repr

namespace Double

open Decimal (power)

/-- What the bits of a double stand for. -/
inductive Shape where
  /-- The number `± mantissa * 2 ^ exponent`. `evenGap` says that the gap below it is as wide
  as the gap above it, which fails at the powers of two. -/
  | finite (negative : Bool) (mantissa : Nat) (exponent : Int) (evenGap : Bool)
  | infinite (negative : Bool)
  | nan
  deriving DecidableEq, Repr

/-- The weight of the leading bit of a mantissa, which is not stored: 2 to the 52nd. -/
def leadingBit : Nat := 0x10000000000000

/-- The bits read as sign, exponent and fraction. -/
def shape (x : Double) : Shape :=
  let n := x.bits.toNat
  let negative := n / leadingBit / 2048 == 1
  let biased := n / leadingBit % 2048
  let fraction := n % leadingBit
  if biased = 2047 then
    if fraction = 0 then .infinite negative else .nan
  else if biased = 0 then .finite negative fraction (-1074) true
  else .finite negative (leadingBit + fraction) (biased - 1075) (fraction != 0 || biased == 1)

/-- The order of `a * 2 ^ p` and `c * 10 ^ k`, decided in whole numbers. -/
def compareScaled (a : Nat) (p : Int) (c : Nat) (k : Int) : Ordering :=
  compare (a * power 2 p * power 10 (-k)) (c * power 10 k * power 2 (-p))

/-- The whole number of steps of width `10 ^ k` below `a * 2 ^ p`. -/
def floorScaled (a : Nat) (p k : Int) : Nat :=
  a * power 2 p * power 10 (-k) / (power 10 k * power 2 (-p))

/-- Whether `c * 10 ^ k` rounds to `m * 2 ^ q`: it lies between the midpoints to the
neighbours, and on a midpoint only if `m` is even. -/
def roundsTo (m : Nat) (q : Int) (evenGap : Bool) (c : Nat) (k : Int) : Bool :=
  let low := if evenGap then 4 * m - 2 else 4 * m - 1
  let above := compareScaled low (q - 2) c k
  let below := compareScaled (4 * m + 2) (q - 2) c k
  (above == .lt || above == .eq && m % 2 == 0) && (below == .gt || below == .eq && m % 2 == 0)

/-- The point of the grid of width `10 ^ k` that rounds to `m * 2 ^ q` and is nearest to it;
of two equally near ones the even one. -/
def onGrid? (m : Nat) (q : Int) (evenGap : Bool) (k : Int) : Option Nat :=
  let c := floorScaled m q k
  match roundsTo m q evenGap c k, roundsTo m q evenGap (c + 1) k with
  | true, true =>
    match compareScaled (2 * m) q (2 * c + 1) k with
    | .lt => some c
    | .gt => some (c + 1)
    | .eq => some (if c % 2 = 0 then c else c + 1)
  | true, false => some c
  | false, true => some (c + 1)
  | false, false => none

/-- The exponents of the decimal grids that a double can need, coarse to fine. -/
def grids : List Int :=
  (List.range 634).map fun i : Nat => (309 : Int) - i

/-- The fewest digits that read back as `m * 2 ^ q`, as a coefficient and an exponent. -/
def shortest (m : Nat) (q : Int) (evenGap : Bool) : Nat × Int :=
  if m = 0 then (0, 0)
  else (grids.findSome? fun k => (onGrid? m q evenGap k).map (·, k)).getD (0, 0)

/-- The decimal exponents of the leading digit that are written positionally. -/
def isPositional (leading : Int) : Bool :=
  -4 ≤ leading && leading < 16

/-- The decimal that a double is written as. Where it is written positionally it has at
least one digit behind the point. -/
def toDecimal (x : Double) : Decimal :=
  match x.shape with
  | .nan => .nan false false 0
  | .infinite s => .infinite s
  | .finite s m q evenGap =>
    let (c, k) := shortest m q evenGap
    if isPositional (Decimal.adjusted c k) && 0 ≤ k then .finite s (c * power 10 (k + 1)) (-1)
    else .finite s c k

/-- Digits of an exponent, at least two. -/
def exponentDigits (n : Nat) : List Char :=
  let ds := Decimal.digits n
  List.replicate (2 - ds.length) '0' ++ ds

/-- A magnitude written as doubles are: positionally for moderate exponents, otherwise with
an exponent of at least two digits. -/
def magnitudeText (c : Nat) (k : Int) : List Char :=
  let adj := Decimal.adjusted c k
  if isPositional adj then Decimal.positional (Decimal.digits c) k.natAbs
  else Decimal.leading (Decimal.digits c) ++
    'e' :: (if adj < 0 then '-' else '+') :: exponentDigits adj.natAbs

/-- The written form of a double. -/
def text (x : Double) : List Char :=
  match x.toDecimal with
  | .nan .. => "nan".toList
  | .infinite s => Decimal.sign s ++ "inf".toList
  | .finite s c k => Decimal.sign s ++ magnitudeText c k

/-- The written form without the zero behind the point that whole numbers get. -/
def bareText (x : Double) : List Char :=
  let t := x.text
  if t.drop (t.length - 2) = ".0".toList then t.take (t.length - 2) else t

end Double

end QueryBook
