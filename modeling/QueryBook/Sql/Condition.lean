import QueryBook.Sql.Column
import QueryBook.Sql.Printer

/-!
# Conditions

A condition asks that columns equal values: one equality for each column, in order, joined by
`AND` from the left. A number is compared by its written form; a negative one is a minus sign
before its absolute value.
-/

namespace QueryBook

namespace Sql.Condition

/-- A literal of digits behind a minus sign. -/
def negativeLiteral (magnitude : List Char) : Expr :=
  .unary .negative (.number (String.ofList magnitude))

/-- The literal of a number with a point or an exponent. A negative one is rounded to the working
precision of decimals; one that has no place in their range is written as given. -/
def roundedLiteral (written : List Char) (d : Decimal) : Expr :=
  match if d.isNegative then d.abs? else none with
  | some magnitude => negativeLiteral magnitude.text
  | none => .number (String.ofList written)

/-- The literal of an integer, which keeps all its digits. -/
def integerLiteral (i : Int) : Expr :=
  if i < 0 then negativeLiteral (Decimal.digits i.natAbs)
  else .number (String.ofList (Decimal.digits i.natAbs))

/-- The most digits with which a numeral is read as an integer. -/
def integerDigits : Nat := 4300

/-- The literal of a decimal number. One without a point and an exponent keeps all its digits,
unless they are too many to be read as an integer. -/
def decimalLiteral (d : Decimal) : Expr :=
  if d.isNegative && d.isInteger && (d.text.drop 1).length ≤ integerDigits then
    negativeLiteral (d.text.drop 1)
  else roundedLiteral d.text d

/-- The literal of a number in a condition. -/
def numberLiteral (n : Number) : Expr :=
  match n with
  | .int i | .fraction i 1 => integerLiteral i
  | .double x => roundedLiteral n.text x.toDecimal
  | .decimal d => decimalLiteral d
  | .fraction .. | .complex .. => .number (String.ofList n.text)

/-- The literal of a value in a condition; values of other kinds than texts and numbers cannot
be compared. -/
def literal (v : Value) : Except Failure Expr :=
  match v with
  | .text s => .ok (.text s)
  | .number n => .ok (numberLiteral n)
  | .other k => .error (.incomparable k)

/-- The equality of a column and a value; the column is looked at first. -/
def equality (column : String) (value : Value) : Except Failure Expr := do
  let column ← columnOf column
  let value ← literal value
  return .binary .equal column value

/-- Expressions joined by `AND` from the left. -/
def conjunction (first : Expr) (more : List Expr) : Expr :=
  more.foldl (.binary .and) first

end Sql.Condition

open Sql Condition in
/-- The condition that columns equal values, if there are any. -/
def buildCondition (conditions : List (String × Value)) : Except Failure (Option Expr) := do
  match ← conditions.mapM fun c => equality c.1 c.2 with
  | [] => return none
  | first :: more => return some (conjunction first more)

end QueryBook
