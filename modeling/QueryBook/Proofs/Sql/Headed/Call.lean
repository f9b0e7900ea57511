import QueryBook.Proofs.Sql.Headed.Name
import QueryBook.Sql.Parser.Call

/-!
# Calls are headed

A call begins with its name. Only the functions that stand for other expressions give up their
names, and what they stand for begins with one of their arguments; so the arguments of a call must
be headed as well (`knownCall_headed`).
-/

namespace QueryBook.Sql.Parser

open Std.Do

set_option mvcgen.warning false

/-! ## Readers of what never leads

What stands behind a word or between parentheses may be anything. -/

section

variable (g : Grammar)

@[spec] theorem nullsWords_spec : ⦃⌜True⌝⦄ nullsWords ⦃⇓? _ => ⌜True⌝⦄ := answers _

@[spec] theorem groupOrder_spec : ⦃⌜True⌝⦄ groupOrder g ⦃⇓? _ => ⌜True⌝⦄ := answers _

@[spec] theorem filter_spec : ⦃⌜True⌝⦄ filter g ⦃⇓? _ => ⌜True⌝⦄ := answers _

@[spec] theorem windowOrName_spec : ⦃⌜True⌝⦄ windowOrName g ⦃⇓? _ => ⌜True⌝⦄ := answers _

@[spec] theorem type_spec (isOperand : Bool) : ⦃⌜True⌝⦄ g.type isOperand ⦃⇓? _ => ⌜True⌝⦄ :=
  answers _

@[spec] theorem order_spec : ⦃⌜True⌝⦄ order g ⦃⇓? _ => ⌜True⌝⦄ := answers _

@[spec] theorem wordWhere_spec (isCertain : Bool) (isAllowed : String → Bool) :
    ⦃⌜True⌝⦄ wordWhere g isCertain isAllowed ⦃⇓? _ => ⌜True⌝⦄ := answers _

@[spec] theorem certainWord_spec : ⦃⌜True⌝⦄ certainWord g ⦃⇓? _ => ⌜True⌝⦄ := answers _

@[spec] theorem limitCount_spec : ⦃⌜True⌝⦄ limitCount g ⦃⇓? _ => ⌜True⌝⦄ := answers _

@[spec] theorem limitOptions_spec : ⦃⌜True⌝⦄ limitOptions ⦃⇓? _ => ⌜True⌝⦄ := answers _

@[spec] theorem limitGroups_spec (e : Expr) : ⦃⌜True⌝⦄ limitGroups g e ⦃⇓? _ => ⌜True⌝⦄ :=
  answers _

end

variable (g : Grammar)

/-! ## What follows a call -/

@[spec] theorem withNulls_spec {e? : Option Expr} (he : ∀ e ∈ e?, e.Headed) :
    ⦃⌜True⌝⦄ withNulls e? ⦃⇓? e? => ⌜∀ e ∈ e?, e.Headed⌝⦄ := by
  mvcgen [withNulls]
  all_goals simp_all

theorem outerNulls_headed {e : Expr} (he : e.Headed) : (outerNulls e).1.Headed := by
  unfold outerNulls
  dsimp only
  split
  · split
    · split <;> trivial
    · trivial
  · exact he

/-- A call stands before what follows it. -/
@[spec] theorem windowed_spec {call : Expr} (hcall : call.Headed) :
    ⦃⌜True⌝⦄ windowed g call ⦃⇓? e => ⌜e.Headed⌝⦄ := by
  have hinner := outerNulls_headed ((Expr.headed_bare call).2 hcall)
  unfold windowed
  dsimp only
  mvcgen
  intro s
  -- comments are taken where words about nulls follow; a window may follow either way
  split
  all_goals mvcgen
  · intro _
    split <;> simpa using hinner
  · split <;> simpa using hinner
  · intro _
    split <;> simpa using hinner
  · split <;> simpa using hinner

@[spec] theorem withOrder_spec {e? : Option Expr} (he : ∀ e ∈ e?, e.Headed) :
    ⦃⌜True⌝⦄ withOrder g e? ⦃⇓? e? => ⌜∀ e ∈ e?, e.Headed⌝⦄ := by
  mvcgen [withOrder]
  all_goals cases e? <;> simp_all

/-! ## Functions with a grammar of their own

Their calls begin with the names of the functions, whatever the arguments are. -/

@[spec] theorem characterCall_spec : ⦃⌜True⌝⦄ characterCall g ⦃⇓? e => ⌜e.Headed⌝⦄ := by
  mvcgen [characterCall]
  all_goals simp [*]

@[spec] theorem substringCall_spec : ⦃⌜True⌝⦄ substringCall g ⦃⇓? e => ⌜e.Headed⌝⦄ := by
  have hplaces (step : Option Expr × Option Expr → Parser (Option (Option Expr × Option Expr)))
      (places : Option Expr × Option Expr) := answers (iterate step places)
  mvcgen [substringCall, hplaces]

@[spec] theorem roundingCall_spec (function : String) :
    ⦃⌜True⌝⦄ roundingCall g function ⦃⇓? e => ⌜e.Headed⌝⦄ := by
  have harguments := answers (arguments g false)
  mvcgen [roundingCall, harguments]

@[spec] theorem decodeCall_spec : ⦃⌜True⌝⦄ decodeCall g ⦃⇓? e => ⌜e.Headed⌝⦄ := by
  mvcgen [decodeCall]
  all_goals simp [*]

variable [g.Headed]

@[spec] theorem castCall_spec (isTry : Bool) :
    ⦃⌜True⌝⦄ castCall g isTry ⦃⇓? e => ⌜e.Headed⌝⦄ := by
  mvcgen [castCall]
  all_goals simp [*]

@[spec] theorem convertCall_spec (isTry : Bool) :
    ⦃⌜True⌝⦄ convertCall g isTry ⦃⇓? e => ⌜e.Headed⌝⦄ := by
  mvcgen [convertCall]
  all_goals simp [*]

@[spec] theorem extractCall_spec (part : Parser (Option Expr)) :
    ⦃⌜True⌝⦄ extractCall g part ⦃⇓? e => ⌜e.Headed⌝⦄ := by
  have hpart := answers part
  mvcgen [extractCall, hpart]
  all_goals simp [*]

@[spec] theorem positionCall_spec : ⦃⌜True⌝⦄ positionCall g ⦃⇓? e => ⌜e.Headed⌝⦄ := by
  mvcgen [positionCall]
  all_goals simp [*]

@[spec] theorem trimCall_spec : ⦃⌜True⌝⦄ trimCall g ⦃⇓? e => ⌜e.Headed⌝⦄ := by
  mvcgen [trimCall]
  all_goals simp [*]

@[spec] theorem overlayCall_spec : ⦃⌜True⌝⦄ overlayCall g ⦃⇓? e => ⌜e.Headed⌝⦄ := by
  mvcgen [overlayCall]
  all_goals simp [*]

@[spec] theorem groupTextCall_spec : ⦃⌜True⌝⦄ groupTextCall g ⦃⇓? e => ⌜e.Headed⌝⦄ := by
  have hordered (e? : Option Expr) := answers (withOrder g e?)
  have hlimited (e? : Option Expr) := answers (withLimit g e?)
  mvcgen [groupTextCall, hordered, hlimited, -withOrder_spec]
  all_goals simp [*]

@[spec] theorem grammarCall_spec (function : String) (part : Parser (Option Expr)) :
    ⦃⌜True⌝⦄ grammarCall g function part ⦃⇓? e => ⌜e.Headed⌝⦄ := by
  mvcgen [grammarCall]
  all_goals simp [*]

/-! ## Arguments -/

@[spec] theorem parameters_spec : ⦃⌜True⌝⦄ parameters g ⦃⇓? es => ⌜∀ e ∈ es, e.Headed⌝⦄ := by
  have hnames := separated_headed (certainName_spec g)
  mvcgen [parameters, hnames, -separated_spec]
  all_goals simp_all

@[spec] theorem queryOr_spec {p : Parser (Option Expr)}
    (hp : ⦃⌜True⌝⦄ p ⦃⇓? e? => ⌜∀ e ∈ e?, e.Headed⌝⦄) :
    ⦃⌜True⌝⦄ queryOr g p ⦃⇓? e? => ⌜∀ e ∈ e?, e.Headed⌝⦄ := by
  mvcgen [queryOr, hp]
  case vc2.hq hbare _ he => exact (he _ rfl).of_bare hbare
  all_goals simp [*]

@[spec] theorem argumentBody_spec (canAlias : Bool) :
    ⦃⌜True⌝⦄ argumentBody g canAlias ⦃⇓? e? => ⌜∀ e ∈ e?, e.Headed⌝⦄ := by
  mvcgen [argumentBody]
  all_goals simp [*]

@[spec] theorem havingBound_spec {e? : Option Expr} (he : ∀ e ∈ e?, e.Headed) :
    ⦃⌜True⌝⦄ havingBound g e? ⦃⇓? e? => ⌜∀ e ∈ e?, e.Headed⌝⦄ := by
  mvcgen [havingBound]
  all_goals simp [*]

/-- The other spelling of a limit stands in the place of the argument; it begins with a word. -/
@[spec] theorem limit_spec :
    ⦃⌜True⌝⦄ limit g ⦃⇓? l? => ⌜∀ e, l? = some (.fetch e) → e.Headed⌝⦄ := by
  mvcgen [limit]
  all_goals simp [*]

@[spec] theorem withLimit_spec {e? : Option Expr} (he : ∀ e ∈ e?, e.Headed) :
    ⦃⌜True⌝⦄ withLimit g e? ⦃⇓? e? => ⌜∀ e ∈ e?, e.Headed⌝⦄ := by
  mvcgen [withLimit]
  all_goals cases e? <;> simp_all

omit [g.Headed] in
theorem onlyName_headed {names : List Expr} (h : ∀ e ∈ names, e.Headed) :
    (match names with
      | [name] => name
      | names => .tuple names).Headed := by
  split
  · exact h _ List.mem_cons_self
  · trivial

@[spec] theorem argument_spec (canAlias : Bool) :
    ⦃⌜True⌝⦄ argument g canAlias ⦃⇓? e? => ⌜∀ e ∈ e?, e.Headed⌝⦄ := by
  mvcgen [argument]
  case vc1.he => exact onlyName_headed ‹_›
  all_goals simp [*]

@[spec] theorem arguments_spec (canAlias : Bool) :
    ⦃⌜True⌝⦄ arguments g canAlias ⦃⇓? es => ⌜∀ e ∈ es, e.Headed⌝⦄ :=
  separated_headed (argument_spec g canAlias)

/-! ## Case -/

theorem choice_headed (arguments : List Expr) : ∀ e ∈ choice arguments, e.Headed := by
  unfold choice
  split <;> simp

@[spec] theorem case_spec (c : Cursor) :
    ⦃⌜True⌝⦄ case g c ⦃⇓? e? => ⌜∀ e ∈ e?, e.Headed⌝⦄ := by
  mvcgen [case]
  all_goals simp [*]

@[spec] theorem conditional_spec (c : Cursor) :
    ⦃⌜True⌝⦄ conditional g c ⦃⇓? e? => ⌜∀ e ∈ e?, e.Headed⌝⦄ := by
  mvcgen [conditional]
  case vc1 => simpa using choice_headed _ _ ‹_›
  all_goals simp [*]

/-! ## Functions that stand for other expressions -/

omit [g.Headed] in
theorem enclosed_headed {e : Expr} (he : e.Headed) : (enclosed e).Headed := by
  unfold enclosed
  split
  · trivial
  · split
    · exact he
    · trivial
  · exact he

omit [g.Headed] in
/-- What a call stands for begins with a name or with an argument. -/
theorem knownCall_headed (function : String) {arguments : List Expr}
    (h : ∀ e ∈ arguments, e.Headed) : ∀ e ∈ knownCall function arguments, e.Headed := by
  have hplain (name : String) : ∀ e ∈ (if Function.accepts name arguments.length then
      some (Expr.calling name arguments) else none), e.Headed := by
    split <;> simp
  fun_cases knownCall
  -- beside calls and operators there are enclosed operands, choices and names that are kept
  case case9 => simp_all [enclosed_headed]
  case case18 => exact choice_headed _
  case case19 => exact choice_headed _
  case case49 => exact hplain _
  all_goals simp [*]

theorem bareFunction?_headed (l : Lexeme) : ∀ e ∈ bareFunction? l, e.Headed := by
  unfold bareFunction?
  split
  · split
    · simp
    · split <;> simp
  · simp

theorem queryTest_headed (kind : String) (e : Expr) : (queryTest kind e).Headed := by
  unfold queryTest
  split
  · split <;> simp
  · simp
  · split <;> simp

/-! ## Calls -/

@[spec] theorem testCall_spec (kind : String) (before : Cursor) (isPattern : Bool) :
    ⦃⌜True⌝⦄ testCall g kind before isPattern ⦃⇓? e? => ⌜∀ e ∈ e?, e.Headed⌝⦄ := by
  mvcgen [testCall]
  all_goals simp_all [queryTest_headed]

@[spec] theorem leadingFunction_spec (function : String) (c : Cursor) :
    ⦃⌜True⌝⦄ leadingFunction g function c ⦃⇓? e? => ⌜∀ e ∈ e?, e.Headed⌝⦄ := by
  mvcgen [leadingFunction]
  all_goals simp [*]

@[spec] theorem functionCall_spec (function : Lexeme) (isAnonymous : Bool) :
    ⦃⌜True⌝⦄ functionCall g function isAnonymous ⦃⇓? e => ⌜e.Headed⌝⦄ := by
  mvcgen [functionCall]
  case vc1 => exact knownCall_headed _ ‹_› _ ‹_›
  all_goals simp [*]

@[spec] theorem functionWith_spec (part : Parser (Option Expr))
    (canBeBare isAnonymous isCertain : Bool) :
    ⦃⌜True⌝⦄ functionWith g part canBeBare isAnonymous isCertain
      ⦃⇓? e? => ⌜∀ e ∈ e?, e.Headed⌝⦄ := by
  mvcgen [functionWith]
  case vc4.he => exact (Expr.headed_annotated _ _).2 ‹Expr.Headed _›
  case vc7.hcall => exact (Expr.headed_annotated _ _).2 ‹Expr.Headed _›
  case vc19.he hbare _ _ _ => exact bareFunction?_headed _ _ (Option.filter_eq_some_iff.1 hbare).1
  all_goals simp [*]

@[spec] theorem function_spec (canBeBare : Bool) :
    ⦃⌜True⌝⦄ function g canBeBare ⦃⇓? e? => ⌜∀ e ∈ e?, e.Headed⌝⦄ := by
  mvcgen [function]

end QueryBook.Sql.Parser
