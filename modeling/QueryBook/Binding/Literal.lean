import QueryBook.Error
import QueryBook.Text.Delimited

/-!
# Literals

The literal form of a value in SQL text: a text between single quotes with each quote inside
it doubled and nothing else changed, a number as its digits. Values of other kinds have no
literal form.
-/

namespace QueryBook

/-- The literal form of a value, or the kind that has none. -/
def Value.literal? : Value → Except Kind (List Char)
  | .text s => .ok (Text.delimited '\'' '\'' s.toList)
  | .number n => .ok n.text
  | .other k => .error k

/-- The literal form of a value as text; a value without one is refused. -/
def renderLiteral (v : Value) : Except Failure String :=
  match v.literal? with
  | .ok cs => .ok (String.ofList cs)
  | .error k => .error (.unrenderable k)

example : renderLiteral (.text "O'Connor") = .ok "'O''Connor'" := by cbv
example : renderLiteral (.number (.int (-5))) = .ok "-5" := by cbv

end QueryBook
