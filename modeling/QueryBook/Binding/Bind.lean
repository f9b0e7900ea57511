import QueryBook.Binding.Literal
import QueryBook.Binding.Placeholder
import QueryBook.Binding.Template
import QueryBook.Outcome

/-!
# Binding parameters as literals

`bindParameters` replaces the tokens of the given parameters in a query by the literals of
their values. Lenient binding ignores parameters that no token names and placeholders that
no parameter fills; strict binding reports both and refuses the query.
-/

namespace QueryBook

/-- Parameters in the order given, each with its name and value; names are distinct. -/
abbrev Params := List (String × Value)

namespace Binding

/-- The literals of all parameters, or the failure of the first value without one. -/
def literals (params : Params) : Except Failure (List (List Char × List Char)) :=
  params.mapM fun p => do
    let literal ← renderLiteral p.2
    return (p.1.toList, literal.toList)

/-- The query with each token replaced by its literal. -/
def filled (ps : List (Piece (List Char))) : List Char :=
  Template.fill (fun _ literal => literal) ps

/-- The query with each token replaced by one space: what strict binding searches for
placeholders that are left over. -/
def blanked {β : Type} (ps : List (Piece β)) : List Char :=
  Template.fill (fun _ _ => [' ']) ps

/-- The parameters that no token names, in their order. -/
def unused {β : Type} (params : Params) (ps : List (Piece β)) : List String :=
  (params.map (·.1)).filter fun name => !(Template.taken ps).contains name.toList

/-- The placeholders left over, in order of appearance. -/
def unresolved {β : Type} (ps : List (Piece β)) : List String :=
  Placeholder.names (blanked ps)

end Binding

open Binding in
/-- The query with its parameters replaced by literals. Without parameters it is returned as
it is, except that strict binding refuses it when it has placeholders. -/
def bindParameters (sql : String) (params : Params) (strict : Bool) : Outcome String :=
  if params.isEmpty then
    let left := findPlaceholders sql
    if strict && !left.isEmpty then .raise (.ofMismatch [] left) else pure sql
  else do
    let literals ← .ofExcept (literals params)
    let ps := Template.pieces (Template.byLength literals) sql.toList
    let unused := unused params ps
    let unresolved := unresolved ps
    if strict && !(unused.isEmpty && unresolved.isEmpty) then
      .report (.mismatch unused unresolved)
      .raise (.ofMismatch unused unresolved)
    else
      .report (.bound (params.length - unused.length) params.length)
      return String.ofList (filled ps)

end QueryBook
