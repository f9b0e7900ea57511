import QueryBook.Proofs.Sql.Reader.Follow
import QueryBook.Sql.Parser.Name

/-!
# Reading names and aliases

A quoted name or a placeholder begins with a lexeme of its own, so that a parser of names answers by
the lexeme ahead. An alias is announced by `AS` wherever a statement was printed; without that word
an expression stays as it is, unless a limit begins.
-/

namespace QueryBook.Sql

open Lexeme (kw)

namespace Lexeme

/-- Whether a quoted name or a placeholder begins with the lexeme. -/
def beginsIdentifier : Lexeme → Bool
  | quoted _ => true
  | symbol s => ["?", ":", "@"].contains s
  | _ => false

/-- The name that a lexeme is where a name is certain to follow. -/
def asName? : Lexeme → Option Name
  | word s | keyword _ s => some (.plain s)
  | quoted s => some (.quoted s)
  | _ => none

end Lexeme

namespace Parser

variable {g : Grammar} {ls rest : List Lexeme}

/-! ## Names -/

/-- A narrower question has the answer no as well. -/
theorem any_eq_false {is isToo : Lexeme → Bool} {l? : Option Lexeme} (h : l?.any is = false)
    (himp : ∀ l, isToo l = true → is l = true) : l?.any isToo = false := by
  cases l? with
  | none => rfl
  | some l => exact Bool.eq_false_iff.mpr fun htoo => by simp [himp l htoo] at h

theorem symbol_leaves (mark : String) (h : ls.head?.any (·.isSymbol mark) = false) :
    Leaves (symbol mark) false ls :=
  fun last? => run_accept_of_not last? ls h

theorem keyword_leaves (kind : String) (h : ls.head?.any (·.isKeyword kind) = false) :
    Leaves (keyword kind) false ls :=
  fun last? => run_accept_of_not last? ls h

theorem reads_leaves {word : String} {words : List String}
    (h : ls.head?.any (·.reads word) = false) : Leaves (reads (word :: words)) false ls := by
  intro last?
  simp [Parser.reads, run_accept_of_not last? _ h]

theorem identifierSign_leaves (h : ls.head?.any Lexeme.beginsIdentifier = false) (mark : String)
    (hm : mark ∈ ["?", ":", "@"]) : Leaves (symbol mark) false ls := by
  refine symbol_leaves mark (any_eq_false h fun l hl => ?_)
  rw [Lexeme.isSymbol_iff.mp hl]
  simpa [Lexeme.beginsIdentifier] using hm

theorem mark_leaves (h : ls.head?.any Lexeme.beginsIdentifier = false) : Leaves mark none ls := by
  intro last?
  simp [mark, identifierSign_leaves h "?" (by simp) last?,
    identifierSign_leaves h ":" (by simp) last?]

theorem quotedOrMark_leaves (h : ls.head?.any Lexeme.beginsIdentifier = false) :
    Leaves quotedOrMark none ls := by
  intro last?
  have hnot (s : String) : ls.head? ≠ some (.quoted s) := by
    rintro heq
    simp [heq, Lexeme.beginsIdentifier] at h
  simp [quotedOrMark, mark_leaves h last?]

theorem placeholder_leaves (h : ls.head?.any Lexeme.beginsIdentifier = false) :
    Leaves (placeholder g) none ls := by
  intro last?
  have hmany : Leaves (many do if ← symbol "@" then return some () else return none) [] ls :=
    many_leaves fun last? => by simp [identifierSign_leaves h "@" (by simp) last?]
  simp [placeholder, hmany last?, mark_leaves h last?]

theorem identifier_leaves (h : ls.head?.any Lexeme.beginsIdentifier = false) :
    Leaves (identifier g) none ls := by
  intro last?
  simp [identifier, quotedOrMark_leaves h last?, placeholder_leaves h last?]

/-- Where no name of the allowed kind stands, none is read. -/
theorem nameWhere_leaves {isCertain : Bool} {isAllowed : String → Bool}
    (h : ls.head?.any (fun l => l.beginsIdentifier || isCertain && !l.isNoName ||
      isWordOf isAllowed l) = false) : Leaves (nameWhere g isCertain isAllowed) none ls := by
  intro last?
  have hid : ls.head?.any Lexeme.beginsIdentifier = false :=
    any_eq_false h fun l hl => by simp [hl]
  have hword : ls.head?.any (fun l => isCertain && !l.isNoName || isWordOf isAllowed l) = false :=
    any_eq_false h fun l hl => by simpa [or_assoc] using .inr (by simpa using hl)
  have haccept := run_accept_of_not last? ls hword
  simp [nameWhere, identifier_leaves hid last?, haccept]

theorem identifier_reads_quoted (s : String) :
    Reads (identifier g) [.quoted s] (some (.name (.quoted s))) rest := by
  intro last?
  simp [identifier, quotedOrMark]

theorem identifier_reads_bound {l : Lexeme} {s : String}
    (hl : l = .word s ∨ ∃ kind, l = .keyword kind s) :
    Reads (identifier g) [.symbol ":", l] (some (.name (.bound s))) rest := by
  intro last?
  rcases hl with rfl | ⟨kind, rfl⟩ <;>
    simp only [identifier, quotedOrMark, mark, run_bind, run_pure, run_ite, run_get, run_ahead?,
      run_advance, run_made, run_symbol, Option.bind_some, List.cons_append, List.nil_append,
      List.head?_cons, if_true, if_false, Bool.false_eq_true, beq_self_eq_true, String.reduceBEq,
      Lexeme.isSymbol_symbol, Lexeme.lastOf_cons, Lexeme.lastOf_nil]

theorem identifier_reads_anonymous :
    Reads (identifier g) [.symbol "?"] (some (.name .anonymous)) rest := by
  intro last?
  simp [identifier, quotedOrMark, mark]

/-- A name where it is allowed. -/
theorem nameWhere_reads {isCertain : Bool} {isAllowed : String → Bool} {l : Lexeme} {n : Name}
    (hn : l.asName? = some n)
    (hl : (l.beginsIdentifier || isCertain && !l.isNoName || isWordOf isAllowed l) = true) :
    Reads (nameWhere g isCertain isAllowed) [l] (some (.name n)) rest := by
  intro last?
  cases l with
  | quoted s =>
    cases hn
    simp [nameWhere, (identifier_reads_quoted s).one]
  | word s =>
    cases hn
    have hid : Leaves (identifier g) none (.word s :: rest) := identifier_leaves rfl
    simp [nameWhere, hid last?, isWordOf, Lexeme.content]
  | keyword k s =>
    cases hn
    have hid : Leaves (identifier g) none (.keyword k s :: rest) := identifier_leaves rfl
    simp only [Lexeme.beginsIdentifier, Bool.false_or] at hl
    simp [nameWhere, hid last?, hl, Lexeme.content]
  | _ => cases hn


/-! ## Limits -/

theorem finds_leaves {α : Type} {p : Parser (Option α)} (h : Leaves p none ls) :
    Leaves (finds p) false ls := by
  intro last?
  simp [finds, attempt, h last?]

theorem offset_leaves (h : ls.head?.any (·.isKeyword "OFFSET") = false) :
    Leaves (offset g) none ls := by
  intro last?
  simp [offset, keyword_leaves _ h last?]

/-- Where no offset begins, a limit begins by its word. -/
theorem beginsLimit_leaves (h : ls.head?.any (·.isKeyword "OFFSET") = false) :
    Leaves (beginsLimit g) (ls.head?.any (·.isKeyword "LIMIT")) ls := by
  intro last?
  simp only [beginsLimit, run_orM, run_sees, Option.bind_some, finds_leaves (offset_leaves h) last?]
  split <;> simp_all

/-! ## Aliases -/

theorem textName_leaves (h : ∀ s, ls.head? ≠ some (.text s)) : Leaves textName none ls := by
  intro last?
  simp [textName]

/-- Without an alias behind it, an expression stays as it is. -/
theorem aliased_leaves (h : Follows .item rest) (isExplicit : Bool) (e? : Option Expr) :
    Leaves (aliased g isExplicit e?) e? rest := by
  intro last?
  have hbegins := beginsLimit_leaves (g := g) (h.head_any (by decide)) last?
  by_cases hlimit : rest.head?.any (·.isKeyword "LIMIT") = true
  · simp [aliased, hbegins, hlimit]
  -- A limit aside, nothing that follows is a name.
  have hname : Leaves (nameWhere g false Keyword.isName) none rest := by
    refine nameWhere_leaves ?_
    have hall : rest.head?.any (fun l => !l.isKeyword "LIMIT" && (l.beginsIdentifier ||
        false && !l.isNoName || isWordOf Keyword.isName l)) = false :=
      h.head_any (by decide)
    cases hhead : rest.head? <;> simp_all
  have htext : Leaves textName none rest :=
    textName_leaves fun s heq => by
      have : rest.head?.any (fun l => l == .text l.content) = false := h.head_any (by decide)
      simp [heq, Lexeme.content] at this
  simp [aliased, hbegins, hlimit, h.keyword "AS" (by decide) last?,
    h.symbol "(" (by decide) last?, hname last?, htext last?]

/-- An expression without comments. -/
theorem comments_of_bare {e : Expr} (h : e.bare = e) : e.comments = [] := by
  cases e with
  | commented e cs =>
    have : sizeOf e = sizeOf (Expr.commented e cs) := congrArg sizeOf h
    simp at this
    omega
  | _ => rfl

theorem annotated_nil (e : Expr) : Expr.annotated [] e = e := by
  simp [Expr.annotated]

theorem bare_name (n : Name) : (Expr.name n).bare = .name n := rfl

theorem comments_name (n : Name) : (Expr.name n).comments = [] := rfl

theorem comments_aliased (e label : Expr) : (Expr.aliased e label).comments = [] := rfl

/-- An expression with an alias behind it. -/
theorem aliased_reads {isExplicit : Bool} {e : Expr} {l : Lexeme} {n : Name} (he : e.bare = e)
    (hn : l.asName? = some n) (hl : l.isNoName = false) :
    Reads (aliased g isExplicit (some e)) [kw "AS", l] (some (.aliased e (.name n))) rest := by
  intro last?
  have hlimit : Leaves (beginsLimit g) false (kw "AS" :: l :: rest) :=
    beginsLimit_leaves rfl
  have hparen : Leaves (symbol "(") false (l :: rest) := by
    cases l <;> first | exact symbol_leaves _ rfl | cases hn
  have hname : Reads (nameWhere g true Keyword.isName) [l] (some (.name n)) rest :=
    nameWhere_reads hn (by simp [hl])
  simp [aliased, hlimit last?, hparen (some (kw "AS")), hname.one, renamed,
    comments_name, bare_name, he, comments_of_bare he, annotated_nil, comments_aliased]

end Parser
end QueryBook.Sql
