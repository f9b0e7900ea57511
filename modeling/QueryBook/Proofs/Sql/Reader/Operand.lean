import QueryBook.Proofs.Sql.Reader.Name
import QueryBook.Sql.Parser.Operand

/-!
# Reading names, literals and paths

What an operand is shows in its first lexeme, and for a call in the second one: elsewhere the readers
of literals, parentheses, types and calls find nothing. A reference that is none of these is a name,
and the fields behind it make a path (`Owns`).
-/

namespace QueryBook.Sql

open Lexeme (kw lastOf)

namespace Lexeme

/-- Whether a literal, a star or a parenthesis begins with the lexeme. -/
def beginsPrimary : Lexeme → Bool
  | text _ | number _ | marked .. => true
  | keyword kind _ => ["NULL", "TRUE", "FALSE"].contains kind
  | symbol s => ["*", ".", "("].contains s
  | _ => false

/-- Whether the lexeme is a type. -/
def beginsType : Lexeme → Bool
  | keyword kind _ => Keyword.isType kind
  | _ => false

/-- Whether a call without parentheses begins with the lexeme. -/
def beginsBareCall (l : Lexeme) : Bool :=
  (match l with
    | text _ | quoted _ => false
    | _ => Parser.leadingFunctions.contains (Text.upper l.content)) ||
    (Parser.bareFunction? l).isSome

end Lexeme

namespace Parser

variable {α : Type} {g : Grammar} {ls ms rest : List Lexeme} {e : Expr}

/-- Where no literal or star stands, only parentheses can be read. -/
theorem primary_eq_parentheses
    (h : ls.head?.any (fun l => l.beginsPrimary && !l.isSymbol "(") = false)
    (last? : Option Lexeme) :
    primary g (.before last? ls) = parentheses g (.before last? ls) := by
  rcases ls with _ | ⟨l, ls⟩
  · rfl
  · cases l with
    | keyword kind s =>
      obtain ⟨hnull, htrue, hfalse⟩ : kind ≠ "NULL" ∧ kind ≠ "TRUE" ∧ kind ≠ "FALSE" := by
        simpa [Lexeme.beginsPrimary, Lexeme.isSymbol] using h
      simp [primary, *]
    | symbol s =>
      obtain ⟨hstar, hpoint⟩ : s ≠ "*" ∧ s ≠ "." := by
        constructor <;> rintro rfl <;> simp [Lexeme.beginsPrimary, Lexeme.isSymbol] at h
      simp [primary, *]
    | text | number | marked => cases h
    | _ => rfl

theorem primary_leaves (h : ls.head?.any Lexeme.beginsPrimary = false) :
    Leaves (primary g) none ls := by
  intro last?
  have hparen := symbol_leaves "(" (any_eq_false h fun l hl => by
    rw [Lexeme.isSymbol_iff.mp hl]; rfl) last?
  rw [primary_eq_parentheses (any_eq_false h (by simp_all))]
  simp [parentheses, hparen]

/-! ## Calls that are none -/

/-- Where neither a word of its own nor the name of a function with its parenthesis stands, no call
is read. -/
theorem functionWith_leaves {part : Parser (Option Expr)} {canBeBare isAnonymous isCertain : Bool}
    (hbare : ls.head?.any Lexeme.beginsBareCall = false)
    (hparen : ls[1]?.any (Lexeme.isSymbol "(" ·) = false ∨
      ls.head?.any (fun l => if isCertain then !l.isNoName else isFunctionName l) = false) :
    Leaves (functionWith g part canBeBare isAnonymous isCertain) none ls := by
  intro last?
  rcases ls with _ | ⟨l, ls⟩
  · simp only [functionWith, run_bind, run_pure, run_get, run_ahead?, Option.bind_some,
      List.head?_nil]
  · have hsecond : Leaves second? ls.head? (l :: ls) := fun last? => by
      simp [List.head?_eq_getElem?]
    simp only [functionWith, run_bind, run_get, run_ahead?, Option.bind_some, List.head?_cons]
    have hlead : l.beginsBareCall = false := by simpa using hbare
    simp only [Lexeme.beginsBareCall, Bool.or_eq_false_iff] at hlead
    refine (congrFun (if_neg ?_) _).trans ?_
    · cases l <;> simp only [hlead.1, Bool.and_false, Bool.and_true, Bool.false_and, Bool.false_eq_true,
        not_false_eq_true]
    · by_cases hp : ls.head?.any (·.isSymbol "(") = true
      · have hname : (if isCertain then !l.isNoName else isFunctionName l) = false := by
          simpa [hp, ← List.head?_eq_getElem?] using hparen
        simp only [hsecond last?, hp, hname, run_bind, run_pure, Option.bind_some, Bool.false_eq_true,
          if_false, if_true]
      · have hnone : bareFunction? l = none := by simpa using hlead.2
        simp only [hsecond last?, hp, hnone, Option.filter_none, run_bind, run_pure, Option.bind_some,
          Bool.false_eq_true, if_false]

theorem function_leaves {canBeBare : Bool}
    (hbrace : ls.head?.any (·.isSymbol "\x7b") = false)
    (hbare : ls.head?.any Lexeme.beginsBareCall = false)
    (hparen : ls[1]?.any (Lexeme.isSymbol "(" ·) = false ∨ ls.head?.any isFunctionName = false) :
    Leaves (function g canBeBare) none ls := by
  intro last?
  have hwith : Leaves (functionWith g (partCall g) canBeBare false false) none ls :=
    functionWith_leaves hbare hparen
  simp [function, run_acceptBoth_of_not last? ls (.inl hbrace), hwith last?]


/-! ## Types that are none -/

theorem typeHead_leaves (h : ls.head?.any Lexeme.beginsType = false) :
    Leaves (typeHead g true) none ls := by
  intro last?
  rcases ls with _ | ⟨l, ls⟩
  · rfl
  · cases l with
    | keyword kind s =>
      have hkind : Keyword.isType kind = false := by simpa [Lexeme.beginsType] using h
      simp [typeHead, hkind]
    | _ => rfl

theorem type_leaves (h : ls.head?.any Lexeme.beginsType = false) : Leaves (type g true) none ls := by
  intro last?
  simp only [type, run_bind, run_get, Option.bind_some, typeHead_leaves h last?, run_pure]

theorem interval_leaves (h : ls.head?.any (·.isKeyword "INTERVAL") = false) :
    Leaves (interval g) none ls := by
  intro last?
  simp [interval, keyword_leaves _ h last?]

/-- Where no type stands, an operand is a name, a call or a literal. -/
theorem operand_eq_column (h : ls.head?.any Lexeme.beginsType = false) (last? : Option Lexeme) :
    operand g (.before last? ls) = column g (.before last? ls) := by
  have hinterval : ls.head?.any (·.isKeyword "INTERVAL") = false :=
    any_eq_false h fun l hl => by
      obtain ⟨s, rfl⟩ := Lexeme.isKeyword_iff.mp hl
      exact (by decide : Keyword.isType "INTERVAL" = true)
  have htype : Leaves (typedLiteral g) none ls := fun last? => by
    simp [typedLiteral, type_leaves h last?]
  simp [operand, interval_leaves hinterval last?, htype last?]

/-! ## What stands behind an operand -/

/-- Brackets neither begin nor end with the lexeme. -/
def noBrackets (ls : List Lexeme) : Prop :=
  ls.head?.any (fun l => l.isSymbol "\x7b" || l.isSymbol "[") = false

theorem brackets_leaves (h : ls.head?.any (fun l => l.isSymbol "\x7b" || l.isSymbol "[") = false)
    (e? : Option Expr) : Leaves (brackets g e?) e? ls := by
  refine iterate_leaves fun last? => ?_
  have hbrace := symbol_leaves "\x7b" (any_eq_false h (by simp_all)) last?
  have hbracket := symbol_leaves "[" (any_eq_false h (by simp_all)) last?
  simp [hbrace, hbracket]

/-- One step behind an operand: a field or a cast. -/
def suffixStep (g : Grammar) (e : Expr) : Parser (Option Expr) := do
  let found? ← do
    if ← symbol "." then pure (some (← fieldOf e (← member g)))
    else if ← symbol "::" then
      let t ← required (g.type false)
      pure (some (← made (.cast false e t)))
    else pure none
  match found? with
  | none => return none
  | some e => return (← brackets g (some e))

theorem suffixes_eq (e : Expr) : suffixes g e = iterate (suffixStep g) e := rfl

theorem suffixStep_leaves (h : ls.head?.any (fun l => l.isSymbol "." || l.isSymbol "::") = false)
    (e : Expr) : Leaves (suffixStep g e) none ls := by
  intro last?
  have hpoint := symbol_leaves "." (any_eq_false h (by simp_all)) last?
  have hcast := symbol_leaves "::" (any_eq_false h (by simp_all)) last?
  simp [suffixStep, hpoint, hcast]

/-- One step behind an operand and its fields: what is found by a sign. -/
def lookupStep (g : Grammar) (e : Expr) : Parser (Option Expr) := do
  let some (.symbol mark) ← ahead? | return none
  unless lookups.contains mark do return none
  advance
  let key ← do
    match ← reference g with
    | some key =>
      if ← pure key.isColumn <&&> sees (·.isSymbol ".") then suffixes g key else pure key
    | none => required g.bitwise
  let e ← made (lookup mark e key.bare)
  let some e ← brackets g (some (e.annotated key.comments)) | return none
  return some (← suffixes g e)

theorem columnOps_eq (e : Expr) : columnOps g e = (do
    let some e ← brackets g (some e) | return e
    let e ← suffixes g e
    iterate (lookupStep g) e) := rfl

theorem lookupStep_leaves
    (h : ls.head?.any (fun l => match l with | .symbol s => lookups.contains s | _ => false) = false)
    (e : Expr) : Leaves (lookupStep g e) none ls := by
  intro last?
  rcases ls with _ | ⟨l, ls⟩
  · rfl
  · cases l with
    | symbol s =>
      have hs : lookups.contains s = false := by simpa using h
      simp only [lookupStep, run_bind, run_ahead?, List.head?_cons, Option.bind_some, hs]
      rfl
    | _ => rfl

/-- Behind an expression that suffixes lead to, nothing more belongs to the operand. -/
theorem columnOps_reads {e' : Expr} (hb : noBrackets (ls ++ rest))
    (hs : ∀ last?, Steps (suffixStep g) e (.before last? (ls ++ rest)) e'
      (.before (lastOf last? ls) rest))
    (h : Follows .operand rest) : Reads (columnOps g e) ls e' rest := by
  intro last?
  have hsuffix : iterate (suffixStep g) e (.before last? (ls ++ rest)) =
      some (e', .before (lastOf last? ls) rest) :=
    (hs last?).iterate_eq (suffixStep_leaves (h.head_any (by decide)) e' _)
  have hlookup := iterate_leaves (lookupStep_leaves (g := g) (h.head_any (by decide)) e')
  simp [columnOps_eq, brackets_leaves hb (some e) last?, suffixes_eq, hsuffix, hlookup _]

theorem noBrackets_of_follows (h : Follows .operand rest) : noBrackets rest := by
  unfold noBrackets
  exact h.head_any (by decide)

theorem columnOps_leaves (h : Follows .operand rest) (e : Expr) : Leaves (columnOps g e) e rest := by
  have hb : noBrackets ([] ++ rest) := noBrackets_of_follows h
  have hs : ∀ last?, Steps (suffixStep g) e (.before last? ([] ++ rest)) e
      (.before (lastOf last? []) rest) := fun last? => .refl e _
  intro last?
  simpa using columnOps_reads hb hs h last?

/-! ## References -/

/-- A name that is neither a word of its own nor the name of a call. -/
theorem reference_reads_name {l : Lexeme} {n : Name} (hn : l.asName? = some n)
    (hl : (l.beginsIdentifier || isWordOf Keyword.isName l) = true)
    (hprimary : l.beginsPrimary = false) (hbare : l.beginsBareCall = false)
    (hrest : rest.head?.any (·.isSymbol "(") = false) :
    Reads (reference g) [l] (some (.name n)) rest := by
  intro last?
  have hsecond : (l :: rest)[1]?.any (Lexeme.isSymbol "(" ·) = false := by
    simpa [List.head?_eq_getElem?] using hrest
  have hbrace : l.isSymbol "\x7b" = false := by
    cases l <;> first | rfl | cases hn
  have hname : Reads (name g) [l] (some (.name n)) rest :=
    nameWhere_reads hn (by simpa using hl)
  have hprimary : Leaves (primary g) none (l :: rest) := primary_leaves hprimary
  have hfunction : Leaves (function g true) none (l :: rest) :=
    function_leaves hbrace hbare (.inl hsecond)
  simp only [reference, hprimary last?, hfunction last?, hname.one, run_bind, run_pure,
    Option.bind_some, List.cons_append, List.nil_append, Lexeme.lastOf_cons, Lexeme.lastOf_nil]

/-- A placeholder in the place of a name. -/
theorem reference_reads_placeholder {l : Lexeme} {e : Expr}
    (h : Reads (identifier g) (l :: ls) (some e) rest) (hl : l = .symbol ":" ∨ l = .symbol "?")
    (hrest : (ls ++ rest).head?.any (·.isSymbol "(") = false) :
    Reads (reference g) (l :: ls) (some e) rest := by
  intro last?
  have hsecond : (l :: (ls ++ rest))[1]?.any (Lexeme.isSymbol "(" ·) = false := by
    simpa [List.head?_eq_getElem?] using hrest
  have hnone : l.beginsPrimary = false ∧ l.beginsBareCall = false ∧ l.isSymbol "\x7b" = false := by
    rcases hl with rfl | rfl <;> decide
  have hprimary : Leaves (primary g) none (l :: (ls ++ rest)) := primary_leaves hnone.1
  have hfunction : Leaves (function g true) none (l :: (ls ++ rest)) :=
    function_leaves hnone.2.2 hnone.2.1 (.inl hsecond)
  have hid : identifier g (.before last? (l :: (ls ++ rest))) =
      some (some e, .before (lastOf last? (l :: ls)) rest) := h last?
  simp only [reference, hprimary last?, hfunction last?, name, nameWhere, hid, run_bind, run_pure,
    Option.bind_some, List.cons_append, Bool.false_or, Bool.false_and, Lexeme.lastOf_cons]

theorem reference_of_primary (h : Reads (primary g) ls (some e) rest) :
    Reads (reference g) ls (some e) rest := by
  intro last?
  simp [reference, h last?]

theorem reference_of_function (hprimary : Leaves (primary g) none (ls ++ rest))
    (h : Reads (function g true) ls (some e) rest) : Reads (reference g) ls (some e) rest := by
  intro last?
  simp [reference, hprimary last?, h last?]

/-! ### Literals and stars -/

theorem primary_reads_number (digits : String) :
    Reads (primary g) [.number digits] (some (.number digits)) rest := by
  intro last?
  simp [primary]

theorem primary_reads_text {s : String} (hrest : ∀ s, rest.head? ≠ some (.text s)) :
    Reads (primary g) [.text s] (some (.text s)) rest := by
  intro last?
  have hnone : Leaves textAhead none rest := fun last? => by simp [textAhead]
  simp [primary, texts, many_leaves hnone _]

/-- The keyword of a constant. -/
def constantWord : Constant → String
  | .null => "NULL"
  | .true => "TRUE"
  | .false => "FALSE"

theorem primary_reads_constant (c : Constant) :
    Reads (primary g) [kw (constantWord c)] (some (.constant c)) rest := by
  intro last?
  cases c <;> simp [primary, kw, constantWord]

theorem readsOf_leaves {words : List String} (h : ls.head?.any (fun l => words.any l.reads) = false) :
    Leaves (readsOf words) none ls := by
  intro last?
  cases hhead : ls.head? with
  | none => simp [readsOf, hhead]
  | some l =>
    have hfind : words.find? l.reads = none := by
      simpa [hhead] using h
    simp [readsOf, hhead, hfind]

/-- Words that change what a star stands for. -/
def starWords : List String := ["EXCEPT", "EXCLUDE", "REPLACE", "RENAME"]

theorem primary_reads_star (hrest : rest.head?.any (fun l => starWords.any l.reads) = false) :
    Reads (primary g) [.symbol "*"] (some .star) rest := by
  intro last?
  have hedit (written : List String) (printed : String) (hw : written ⊆ starWords) :
      Leaves (starEdit g written printed) [] rest := fun last? => by
    have hnone : rest.head?.any (fun l => written.any l.reads) = false :=
      any_eq_false hrest fun l hl => by
        obtain ⟨w, hmem, hw'⟩ := List.any_eq_true.mp hl
        exact List.any_eq_true.mpr ⟨w, hw hmem, hw'⟩
    simp [starEdit, readsOf_leaves hnone last?]
  have hstar : Leaves (star g) .star rest := fun last? => by
    simp [star, hedit ["EXCEPT", "EXCLUDE"] "EXCEPT" (by simp [starWords]) last?,
      hedit ["REPLACE"] "REPLACE" (by simp [starWords]) last?,
      hedit ["RENAME"] "RENAME" (by simp [starWords]) last?]
  simp [primary, hstar _]

/-! ### Paths -/

/-- From some lexemes on, a reference and the fields behind it are an expression. -/
def Owns (g : Grammar) (ls : List Lexeme) (e : Expr) (rest : List Lexeme) : Prop :=
  ∀ last?, ∃ b c, reference g (.before last? (ls ++ rest)) = some (some b, c) ∧
    brackets g (some b) c = some (some b, c) ∧
    Steps (suffixStep g) b c e (.before (lastOf last? ls) rest)

theorem Owns.of_reference (h : Reads (reference g) ls (some e) rest) (hb : noBrackets rest) :
    Owns g ls e rest :=
  fun last? => ⟨e, _, h last?, brackets_leaves hb (some e) _, .refl ..⟩

theorem fieldOf_bare {owner member : Expr} (ho : owner.bare = owner) (hm : member.bare = member)
    (last? : Option Lexeme) :
    fieldOf owner member (.before last? ls) =
      some (.field owner member, .before last? ls) := by
  simp only [fieldOf, ho, hm, comments_of_bare ho, comments_of_bare hm, annotated_nil, ite_self]
  split <;> simp

/-- A field of an owner. -/
theorem Owns.field {owner m : Expr} (h : Owns g ls owner (.symbol "." :: (ms ++ rest)))
    (hm : Reads (member g) ms m rest) (hb : noBrackets rest) (ho : owner.bare = owner)
    (hm' : m.bare = m) : Owns g (ls ++ .symbol "." :: ms) (.field owner m) rest := by
  intro last?
  obtain ⟨b, c, href, hbr, hsteps⟩ := h last?
  refine ⟨b, c, by simpa using href, hbr, hsteps.trans ?_⟩
  rw [Lexeme.lastOf_append]
  refine .single ?_ (by simpa only [Cursor.before_rest_length] using Lexeme.length_lt _ ms rest)
  simp [suffixStep, hm _, fieldOf_bare ho hm', brackets_leaves hb _ _]

/-- A reference with its fields is a column. -/
theorem Owns.column_reads (h : Owns g ls e rest) (hf : Follows .operand rest) :
    Reads (column g) ls (some e) rest := by
  intro last?
  obtain ⟨b, c, href, hbr, hsteps⟩ := h last?
  have hsuffix : suffixes g b c = some (e, .before (lastOf last? ls) rest) :=
    hsteps.iterate_eq (suffixStep_leaves (hf.head_any (by decide)) e _)
  have hlookup := iterate_leaves (lookupStep_leaves (g := g) (hf.head_any (by decide)) e)
  simp [column, href, columnOps_eq, hbr, hsuffix, hlookup _]

theorem member_reads_name {l : Lexeme} {n : Name} (hn : l.asName? = some n)
    (hl : l.isNoName = false) (hprimary : l.beginsPrimary = false)
    (hbare : l.beginsBareCall = false) (hrest : rest.head?.any (·.isSymbol "(") = false) :
    Reads (member g) [l] (.name n) rest := by
  intro last?
  have hsecond : (l :: rest)[1]?.any (Lexeme.isSymbol "(" ·) = false := by
    simpa [List.head?_eq_getElem?] using hrest
  have hname : Reads (certainName g) [l] (some (.name n)) rest :=
    nameWhere_reads hn (by simp [hl])
  have hcall : Leaves (memberFunction g) none (l :: rest) := functionWith_leaves hbare (.inl hsecond)
  have hprimary : Leaves (primary g) none (l :: rest) := primary_leaves hprimary
  simp only [member, hcall last?, hprimary last?, required, hname.one, run_bind, run_pure,
    Option.bind_some, List.cons_append, List.nil_append, Lexeme.lastOf_cons, Lexeme.lastOf_nil]

theorem member_reads_star (hrest : rest.head?.any (·.isSymbol "(") = false)
    (hstar : rest.head?.any (fun l => starWords.any l.reads) = false) :
    Reads (member g) [.symbol "*"] .star rest := by
  intro last?
  have hsecond : (.symbol "*" :: rest)[1]?.any (Lexeme.isSymbol "(" ·) = false := by
    simpa [List.head?_eq_getElem?] using hrest
  have hbare : (Lexeme.symbol "*").beginsBareCall = false := by decide
  have hcall : Leaves (memberFunction g) none (.symbol "*" :: rest) :=
    functionWith_leaves hbare (.inl hsecond)
  simp only [member, hcall last?, (primary_reads_star hstar).one, run_bind, run_pure,
    Option.bind_some, List.cons_append, List.nil_append, Lexeme.lastOf_cons, Lexeme.lastOf_nil]


end Parser
end QueryBook.Sql
