import QueryBook.Proofs.Sql.Covered.Whole
import QueryBook.Sql.Edit

/-!
# Printed selects are read back

A select that is covered is read from its own text again (`parseSelect_print`): its line is cut into
its lexemes, and the readers find it in them.
-/

namespace QueryBook.Sql

open Lexeme (kw)

variable {d : Dialect} {s : Select}

theorem Lexer.stops_nil : Lexer.stops [] = true := rfl

/-- A line of written parts is cut into their lexemes. -/
theorem Written.tokenize_line {ps : List Part} (h : Written d ps) :
    tokenize d (Layout.line d ps) = some ((Layout.lexemes ps).map Lexeme.token) := by
  have hlaid : Lexer.Cuts d (Layout.chars d (Layout.tight ps) ++ []) _ [] := h.laid [] Lexer.stops_nil
  rw [List.append_nil] at hlaid
  rw [tokenize, Layout.line, String.toList_ofList, hlaid.scan_eq, Option.map_some,
    attach_scanned h.printed h.spaced]

namespace Parser

/-- Tokens without a semicolon are one statement. -/
theorem chunks_eq {ts : List Token} (h : ∀ t ∈ ts, t.isSymbol ";" = false) : chunks ts = [ts] := by
  induction ts with
  | nil => rfl
  | cons t ts ih =>
    obtain ⟨ht, hts⟩ := List.forall_mem_cons.mp h
    simp [chunks, ht, ih hts]

/-- A query is no other statement. -/
theorem beginsOther_query {l : Lexeme} (hl : l = kw "SELECT" ∨ l = kw "WITH") (ls : List Lexeme) :
    beginsOther ((l :: ls).map Lexeme.token) = false := by
  have hnone : ∀ l ∈ [kw "SELECT", kw "WITH"], (l.token.isSymbol ";" ||
      Keyword.statements.any l.token.isKeyword || l.reads "IF") = false := by decide
  have hboth := hnone l (by simpa using hl)
  rw [Bool.or_eq_false_iff] at hboth
  have hword : l.token.lexeme.reads "IF" = false := hboth.2
  rw [List.map_cons, beginsOther, hword, Bool.false_and, Bool.or_false]
  exact hboth.1

end Parser

/-- A covered select is read from its own text. -/
theorem parseSelect_print (hd : d ∈ Dialect.all) (h : Covered d (.query (.select s))) :
    parseSelect d (printSelect d s) = .ok s := by
  have hshape : Query.Shape d (.select s) := h.shape hd
  have hparts : selectParts d s = (Query.select s).parts d := by rw [Query.parts]
  have htokens : tokenize d (printSelect d s) =
      some (((Query.select s).lexemes d).map Lexeme.token) := by
    rw [printSelect, hparts]
    exact hshape.written.tokenize_line
  obtain ⟨l, ls, hl, hlexemes⟩ := hshape.lexemes_eq
  have htame : ∀ l ∈ (Query.select s).lexemes d, l.isTame = true := hshape.written.tame
  have hchunks : Parser.chunks (((Query.select s).lexemes d).map Lexeme.token) =
      [((Query.select s).lexemes d).map Lexeme.token] := by
    refine Parser.chunks_eq fun t ht => ?_
    obtain ⟨l, hl, rfl⟩ := List.mem_map.mp ht
    exact Lexeme.not_isSymbol_of_isTame (htame l hl) (by decide)
  have hother : Parser.beginsOther (((Query.select s).lexemes d).map Lexeme.token) = false := by
    rw [hlexemes]
    exact Parser.beginsOther_query hl ls
  have hread : Parser.Reads (Parser.statement (grammarOf d (((Query.select s).lexemes d).map
      Lexeme.token))) ((Query.select s).lexemes d) (some (.select s)) [] := by
    have hfrom : (Node.query (.select s)).ReadsFrom d (tokenize d) _ := h.readsFrom hd
    have hquery := hfrom (4 * (((Query.select s).lexemes d).map Lexeme.token).length + 7) (by
      simp [Node.depth, Node.lexemes, Node.rank])
    exact hquery.statement hshape ⟨rfl, List.forall_mem_nil _⟩
  have hstart := hread none
  rw [List.append_nil] at hstart
  have hend (last? : Option Lexeme) : (Cursor.before last? []).rest = [] := rfl
  simp [parseSelect, htokens, Parser.statements, hchunks, Parser.wholeStatement, hother,
    Cursor.start_tokens, hstart, hend]

end QueryBook.Sql
