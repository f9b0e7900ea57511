import QueryBook.Proofs.Sql.Reader.Query
import QueryBook.Sql.Printer

/-!
# The lexemes of printed parts

A printed statement is read again lexeme by lexeme, whatever the gaps between its parts. A word is
read as the keyword that it is, if it is one, and a placeholder as a sign and a word. What a printed
tree is written with is an equation for each form of tree.
-/

namespace QueryBook.Sql

open Lexeme (kw)

/-! ## Words -/

/-- The keywords of two words that are printed, and these words. -/
def Keyword.phraseWords : List (String × (String × String)) :=
  [("GROUP BY", ("GROUP", "BY")), ("ORDER BY", ("ORDER", "BY")),
   ("PARTITION BY", ("PARTITION", "BY"))]

/-- The lexeme that a printed word is read as. -/
def Lexeme.ofWord (s : String) : Lexeme :=
  match Keyword.phraseWords.lookup s, Keyword.kind? (Text.upper s) with
  | some _, _ => kw s
  | none, some kind => .keyword kind s
  | none, none => .word s

namespace Lexeme

/-- The words of the grammar that are printed. -/
def grammarWords : List String :=
  ["ALL", "AND", "AS", "ASC", "BETWEEN", "CASE", "COLLATE", "CROSS", "CURRENT_DATE", "DESC",
   "DISTINCT", "ELSE", "END", "EXCEPT", "EXISTS", "FALSE", "FIRST", "FROM", "FULL", "GROUP BY",
   "HAVING", "ILIKE", "IN", "INNER", "INTERSECT", "IS", "JOIN", "LEFT", "LIKE", "LIMIT",
   "NATURAL", "NOT", "NULL", "OFFSET", "ON", "OR", "ORDER BY", "OUTER", "OVER", "PARTITION BY",
   "RECURSIVE", "RIGHT", "SELECT", "SEMI", "ANTI", "THEN", "TRUE", "UNION", "USING", "WHEN",
   "WHERE", "WITH", "XOR"]

theorem ofWord_grammar : ∀ s ∈ grammarWords, ofWord s = kw s := by
  decide

/-- Words that are printed and that are no keywords. -/
theorem ofWord_plain : ∀ s ∈ ["CAST", "TRY_CAST", "TOP", "NULLS", "LAST"], ofWord s = .word s := by
  decide

theorem ofWord_cases (s : String) : ofWord s = .word s ∨ ∃ kind, ofWord s = .keyword kind s := by
  rw [ofWord]
  split
  · exact .inr ⟨s, rfl⟩
  · exact .inr ⟨_, rfl⟩
  · exact .inl rfl

@[simp] theorem asName?_ofWord (s : String) : (ofWord s).asName? = some (.plain s) := by
  rcases ofWord_cases s with h | ⟨kind, h⟩ <;> rw [h] <;> rfl

@[simp] theorem content_ofWord (s : String) : (ofWord s).content = s := by
  rcases ofWord_cases s with h | ⟨kind, h⟩ <;> rw [h] <;> rfl

end Lexeme

/-! ## Parts -/

/-- The lexemes that a part is read as; a comment is none. -/
def Part.lexemes (p : Part) : List Lexeme :=
  match p.mark with
  | .lexeme (.word s) => [.ofWord s]
  | .lexeme l => [l]
  | .comment _ => []
  | .placeholder name => [.symbol ":", .ofWord name]
  | .anonymous => [.symbol "?"]

namespace Layout

/-- The lexemes that parts are read as. -/
def lexemes (ps : List Part) : List Lexeme :=
  ps.flatMap Part.lexemes

variable (p : Part) (ps qs : List Part)

@[simp] theorem lexemes_nil : lexemes [] = [] := rfl

@[simp] theorem lexemes_cons : lexemes (p :: ps) = p.lexemes ++ lexemes ps := rfl

@[simp] theorem lexemes_append : lexemes (ps ++ qs) = lexemes ps ++ lexemes qs :=
  List.flatMap_append

@[simp] theorem lexemes_word (s : String) : (Part.word s).lexemes = [.ofWord s] := rfl

@[simp] theorem lexemes_symbol (s : String) : (Part.symbol s).lexemes = [.symbol s] := rfl

@[simp] theorem lexemes_joined (s : String) : (Part.joined s).lexemes = [.symbol s] := rfl

@[simp] theorem lexemes_tight : lexemes (tight ps) = lexemes ps := by
  cases ps <;> rfl

@[simp] theorem lexemes_words (ws : List String) : lexemes (words ws) = ws.map .ofWord := by
  induction ws with
  | nil => rfl
  | cons w ws ih => exact congrArg (Lexeme.ofWord w :: ·) ih

@[simp] theorem lexemes_commas (groups : List (List Part)) :
    lexemes (commas groups) = Lexeme.commas (groups.map lexemes) := by
  induction groups with
  | nil => rfl
  | cons group groups ih =>
    cases groups with
    | nil => rfl
    | cons => simp_all [commas, separated, Lexeme.commas]

@[simp] theorem lexemes_between (opening : Part) :
    lexemes (between opening ps) = opening.lexemes ++ (lexemes ps ++ [.symbol ")"]) := by
  simp [between]

end Layout

open Layout

/-! ## Expressions -/

section

variable (d : Dialect)

/-- The lexemes that an expression is written with. -/
def Expr.lexemes (e : Expr) : List Lexeme :=
  Layout.lexemes (e.parts d)

/-- The lexemes that a query is written with. -/
def Query.lexemes (q : Query) : List Lexeme :=
  Layout.lexemes (q.parts d)

theorem exprsParts_eq (es : List Expr) : exprsParts d es = es.map (Expr.parts d) := by
  induction es with
  | nil => simp [exprsParts]
  | cons e es ih => simp [exprsParts, ih]

@[simp] theorem lexemes_exprs (es : List Expr) :
    Lexeme.commas ((exprsParts d es).map Layout.lexemes) = Lexeme.commas (es.map (Expr.lexemes d)) := by
  rw [exprsParts_eq, List.map_map]
  rfl

namespace Expr

attribute [local simp] parts

theorem lexemes_field (owner member : Expr) :
    (field owner member).lexemes d = owner.lexemes d ++ .symbol "." :: member.lexemes d := by
  simp [lexemes]

theorem lexemes_star : star.lexemes d = [.symbol "*"] := by
  simp [lexemes]

theorem lexemes_number (s : String) : (number s).lexemes d = [.number s] := by
  simp [lexemes, Part.lexemes]

theorem lexemes_text (s : String) : (text s).lexemes d = [.text s] := by
  simp [lexemes, Part.lexemes]

theorem lexemes_binary {op : BinaryOp} {left right : Expr} (hleft : op.encloses left = false)
    (hright : op.encloses right = false) :
    (binary op left right).lexemes d =
      left.lexemes d ++ (Layout.lexemes op.parts ++ right.lexemes d) := by
  simp [lexemes, operandParts, hleft, hright]

theorem lexemes_negative (e : Expr) :
    (unary .negative e).lexemes d = .symbol "-" :: e.lexemes d := by
  simp only [lexemes, parts, negated]
  split <;> simp_all

theorem lexemes_not (e : Expr) : (unary .not e).lexemes d = kw "NOT" :: e.lexemes d := by
  simp [lexemes, Lexeme.ofWord_grammar "NOT" (by decide)]

theorem lexemes_between (e low high : Expr) : (between e low high).lexemes d =
    e.lexemes d ++ kw "BETWEEN" :: (low.lexemes d ++ kw "AND" :: high.lexemes d) := by
  simp [lexemes, Lexeme.ofWord_grammar "BETWEEN" (by decide),
    Lexeme.ofWord_grammar "AND" (by decide)]

theorem lexemes_oneOf (e choices : Expr) : (oneOf e choices).lexemes d =
    e.lexemes d ++ kw "IN" :: choices.lexemes d := by
  simp [lexemes, Lexeme.ofWord_grammar "IN" (by decide)]

theorem lexemes_group (e : Expr) :
    (group e).lexemes d = .symbol "(" :: (e.lexemes d ++ [.symbol ")"]) := by
  simp [lexemes]

theorem lexemes_tuple (es : List Expr) : (tuple es).lexemes d =
    .symbol "(" :: (Lexeme.commas (es.map (Expr.lexemes d)) ++ [.symbol ")"]) := by
  simp [lexemes]

theorem lexemes_listed (es : List Expr) :
    (listed es).lexemes d = Lexeme.commas (es.map (Expr.lexemes d)) := by
  simp [lexemes]

theorem lexemes_phrase (es : List Expr) : (phrase es).lexemes d = es.flatMap (Expr.lexemes d) := by
  simp only [lexemes, parts, exprsParts_eq]
  induction es with
  | nil => rfl
  | cons e es ih => simpa [lexemes] using ih

theorem lexemes_word (s : String) : (word s).lexemes d = [.ofWord s] := by
  simp [lexemes]

theorem lexemes_query (q : Query) : (query q).lexemes d = q.lexemes d := by
  simp [lexemes, Query.lexemes]

theorem lexemes_aliased (e label : Expr) :
    (aliased e label).lexemes d = e.lexemes d ++ kw "AS" :: label.lexemes d := by
  simp [lexemes, Lexeme.ofWord_grammar "AS" (by decide)]

/-- A call, other than one that is printed as an array between brackets. -/
theorem parts_call {n : Name} (hn : d.arrayBrackets = false ∨ n ≠ .plain "ARRAY")
    (es : List Expr) : (call n es).parts d =
      n.parts d ++ Layout.between (.joined "(") (Layout.commas (exprsParts d es)) := by
  have hnot : (d.arrayBrackets && n == .plain "ARRAY") = false := by
    rcases hn with h | h
    · rw [h, Bool.false_and]
    · simp [h]
  simp [callParts, hnot]

/-- A call by a plain name that is not the word before bracketed elements. -/
theorem lexemes_calling {f : String} (hf : (Name.plain f).parts d = [.word f])
    (hbracket : d.arrayBrackets = false ∨ f ≠ "ARRAY") (es : List Expr) :
    (calling f es).lexemes d =
      .ofWord f :: .symbol "(" :: (Lexeme.commas (es.map (Expr.lexemes d)) ++ [.symbol ")"]) := by
  have hname : d.arrayBrackets = false ∨ Name.plain f ≠ .plain "ARRAY" :=
    hbracket.imp_right fun h heq => h (by cases heq; rfl)
  simp [lexemes, calling, parts_call d hname, hf]

theorem lexemes_type (s : String) (sizes : List String) :
    (type s (sizes.map .number) false).lexemes d = .ofWord s :: Parser.sizeLexemes sizes := by
  have hnumbers : (sizes.map Expr.number).map (Expr.lexemes d) = sizes.map fun s => [.number s] := by
    rw [List.map_map]
    exact List.map_congr_left fun s _ => lexemes_number d s
  cases sizes with
  | nil => simp [lexemes, Parser.sizeLexemes]
  | cons size sizes =>
    have hcommas := lexemes_exprs d ((size :: sizes).map Expr.number)
    rw [hnumbers] at hcommas
    simp [lexemes, Parser.sizeLexemes] at hcommas ⊢
    exact hcommas

theorem lexemes_cast (isTry : Bool) (e t : Expr) : (cast isTry e t).lexemes d =
    .word (Parser.castWord isTry) :: .symbol "(" ::
      (e.lexemes d ++ kw "AS" :: (t.lexemes d ++ [.symbol ")"])) := by
  cases isTry <;>
    simp [lexemes, Parser.castWord, Lexeme.ofWord_grammar "AS" (by decide),
      Lexeme.ofWord_plain _ (by decide : "CAST" ∈ _), Lexeme.ofWord_plain _ (by decide : "TRY_CAST" ∈ _)]

theorem lexemes_constant {c : Constant} (hc : c = .null ∨ d.bitConstants = false) :
    (constant c).lexemes d = [kw (Parser.constantWord c)] := by
  have hword : c.word d = Parser.constantWord c := by
    rcases hc with rfl | hc
    · rfl
    · cases c <;> simp [Constant.word, Parser.constantWord, hc]
  have hkeyword : Lexeme.ofWord (Parser.constantWord c) = kw (Parser.constantWord c) := by
    refine Lexeme.ofWord_grammar _ ?_
    cases c <;> decide
  simp [lexemes, hword, hkeyword]

/-- The lexemes of the branches of a case. -/
def branchLexemes (b : Expr × Expr) : List Lexeme :=
  kw "WHEN" :: (b.1.lexemes d ++ kw "THEN" :: b.2.lexemes d)

/-- The lexemes of an expression behind `ELSE`, if there is one. -/
def elseLexemes : Option Expr → List Lexeme
  | none => []
  | some e => kw "ELSE" :: e.lexemes d

theorem lexemes_case (subject? otherwise? : Option Expr) (branches : List (Expr × Expr)) :
    (case subject? branches otherwise?).lexemes d =
      kw "CASE" :: (subject?.elim [] (Expr.lexemes d) ++ (branches.flatMap (branchLexemes d) ++
        (elseLexemes d otherwise? ++ [kw "END"]))) := by
  have hbranches : Layout.lexemes (branchesParts d branches) =
      branches.flatMap (branchLexemes d) := by
    induction branches with
    | nil => simp [branchesParts]
    | cons b branches ih =>
      obtain ⟨test, result⟩ := b
      simp [branchesParts, branchLexemes, ih, lexemes, Lexeme.ofWord_grammar "WHEN" (by decide),
        Lexeme.ofWord_grammar "THEN" (by decide)]
  cases subject? <;> cases otherwise? <;>
    simp [lexemes, elseLexemes, hbranches, Lexeme.ofWord_grammar "CASE" (by decide),
      Lexeme.ofWord_grammar "ELSE" (by decide), Lexeme.ofWord_grammar "END" (by decide)]

theorem lexemes_sorted (key : Expr) (direction : Option Direction) (nullsFirst : Bool) :
    (sorted key direction nullsFirst).lexemes d = key.lexemes d ++
      (Parser.directionLexemes direction ++ Parser.nullsLexemes d direction nullsFirst) := by
  have hdirection : Layout.lexemes (directionParts direction) =
      Parser.directionLexemes direction := by
    rcases direction with _ | _ | _ <;>
      simp [directionParts, Parser.directionLexemes, Lexeme.ofWord_grammar _ (by decide : "ASC" ∈ _),
        Lexeme.ofWord_grammar _ (by decide : "DESC" ∈ _)]
  have hnulls : Layout.lexemes (nullsParts d direction nullsFirst) =
      Parser.nullsLexemes d direction nullsFirst := by
    simp only [nullsParts, Parser.nullsLexemes]
    split
    · rfl
    · cases nullsFirst <;> simp [Lexeme.ofWord_grammar _ (by decide : "FIRST" ∈ _),
        Lexeme.ofWord_plain _ (by decide : "NULLS" ∈ _),
        Lexeme.ofWord_plain _ (by decide : "LAST" ∈ _)]
  simp [lexemes, hdirection, hnulls]

end Expr

namespace Query

theorem lexemes_expr (e : Expr) : (expr e).lexemes d = e.lexemes d := by
  simp [lexemes, Expr.lexemes, parts]

theorem lexemes_nested (q : Query) :
    (nested q).lexemes d = .symbol "(" :: (q.lexemes d ++ [.symbol ")"]) := by
  simp [lexemes, parts]

theorem lexemes_aliased (q : Query) (label : Expr) :
    (aliased q label).lexemes d = q.lexemes d ++ kw "AS" :: label.lexemes d := by
  simp [lexemes, Expr.lexemes, parts, Lexeme.ofWord_grammar "AS" (by decide)]

theorem lexemes_combined {ws : List String} (hws : ws ∈ Parser.setPhrases) (left right : Query) :
    (combined ws [] left right).lexemes d =
      left.lexemes d ++ (ws.map kw ++ right.lexemes d) := by
  have hwords : ws.map Lexeme.ofWord = ws.map kw := by
    have hall : ∀ ws ∈ Parser.setPhrases, ws.map Lexeme.ofWord = ws.map kw := by decide
    exact hall ws hws
  simp [lexemes, parts, comments, hwords]

end Query

end

end QueryBook.Sql
