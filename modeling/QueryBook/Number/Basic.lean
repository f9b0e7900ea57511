import QueryBook.Number.Double

/-!
# Numbers

The kinds of number that can be bound into a query or compared with a column, each with its
written form.
-/

namespace QueryBook

/-- A number of one of five kinds. A fraction is in lowest terms. -/
inductive Number where
  | int (n : Int)
  | double (x : Double)
  | decimal (d : Decimal)
  | fraction (numerator : Int) (denominator : Nat)
  | complex (re im : Double)
  deriving DecidableEq, Repr

namespace Number

/-- The fraction of two integers in lowest terms. -/
def quotient (numerator : Int) (denominator : Nat) : Number :=
  let common := Nat.gcd numerator.natAbs denominator
  fraction (numerator / common) (denominator / common)

/-- The decimal digits of an integer behind its sign. -/
def intText (n : Int) : List Char :=
  Decimal.sign (n < 0) ++ Decimal.digits n.natAbs

/-- Whether the sign of a double is written: the bit, whatever the number. -/
def hasSign (x : Double) : Bool :=
  match x.shape with
  | .finite s .. => s
  | .infinite s => s
  | .nan => false

/-- Whether a complex number is written as its imaginary part alone. -/
def isPureImaginary (re : Double) : Bool :=
  re.bits == 0

/-- A complex number: the imaginary part with a `j`, and the real part before it, the two in
parentheses, unless the real part is plain zero. -/
def complexText (re im : Double) : List Char :=
  if isPureImaginary re then im.bareText ++ ['j']
  else '(' :: re.bareText ++ (if hasSign im then [] else ['+']) ++ im.bareText ++ ['j', ')']

/-- The written form of a number. -/
def text : Number → List Char
  | int n => intText n
  | double x => x.text
  | decimal d => d.text
  | fraction n d => if d = 1 then intText n else intText n ++ '/' :: Decimal.digits d
  | complex re im => complexText re im

end Number

end QueryBook
