/-!
# Templates

A template is a text in which the tokens of some parameters stand for values. The token of a
parameter is its name behind a colon, wherever it occurs. `Template.pieces` reads a template
once from left to right: it tries the parameters in their order, takes the first token that
begins there, and does not look again at what it took. `Template.byLength` is the order in
which binding tries them, longer names first, so that `:identifier` is not taken for `:id`.
-/

namespace QueryBook

/-- A stretch of a template: a character that stays, or the token of a parameter. -/
inductive Piece (β : Type) where
  | copied (c : Char)
  | bound (name : List Char) (value : β)
  deriving Repr

/-- What a piece is replaced by, given what the tokens are replaced by. -/
def Piece.fill {β : Type} (f : List Char → β → List Char) : Piece β → List Char
  | copied c => [c]
  | bound name value => f name value

/-- The name of the parameter whose token a piece is. -/
def Piece.name? {β : Type} : Piece β → Option (List Char)
  | copied _ => none
  | bound name _ => some name

namespace Template

variable {β : Type}

/-- The parameters with longer names first; names of one length keep their order. -/
def byLength (params : List (List Char × β)) : List (List Char × β) :=
  params.mergeSort fun p q => q.1.length ≤ p.1.length

/-- The first parameter whose token `c :: cs` begins with. -/
def token? (params : List (List Char × β)) (c : Char) (cs : List Char) :
    Option (List Char × β) :=
  if c = ':' then params.find? fun p => p.1.isPrefixOf cs else none

/-- A template read once from left to right. -/
def pieces (params : List (List Char × β)) : List Char → List (Piece β)
  | [] => []
  | c :: cs =>
    match token? params c cs with
    | some p => .bound p.1 p.2 :: pieces params (cs.drop p.1.length)
    | none => .copied c :: pieces params cs
  termination_by cs => cs.length

/-- The text with every token replaced. -/
def fill (f : List Char → β → List Char) (ps : List (Piece β)) : List Char :=
  ps.flatMap (Piece.fill f)

/-- The names of the tokens in a template, as often as they were taken. -/
def taken (ps : List (Piece β)) : List (List Char) :=
  ps.filterMap Piece.name?

end Template

end QueryBook
