import QueryBook.Sql.Parser.Core

/-!
# Running parsers among tokens without comments

A printed statement has no comments, so a parser that reads one is always at a place `Cursor.before`
some lexemes: only the lexemes ahead and the last one matter. There each step of a parser is an
equation, and what a parser does as a whole is one of two facts: it reads some lexemes and stops
before the others (`Parser.Reads`), or it reads nothing (`Parser.Leaves`). Loops are taken apart
into their steps, each of which reads a lexeme at least (`Parser.Steps`).
-/

namespace QueryBook.Sql

/-- The token of a lexeme without comments. -/
def Lexeme.token (l : Lexeme) : Token :=
  ⟨l, []⟩

/-- The last of some lexemes, or the one before them if there are none. -/
def Lexeme.lastOf (before? : Option Lexeme) (ls : List Lexeme) : Option Lexeme :=
  ls.foldl (fun _ l => some l) before?

namespace Lexeme

variable (before? : Option Lexeme)

/-- The first of some lexemes, with others behind them. -/
theorem head?_append {ls ms : List Lexeme} (h : ls ≠ []) : (ls ++ ms).head? = ls.head? := by
  cases ls with
  | nil => exact absurd rfl h
  | cons => rfl

@[simp] theorem lastOf_nil : lastOf before? [] = before? := rfl

@[simp] theorem lastOf_cons (l : Lexeme) (ls : List Lexeme) :
    lastOf before? (l :: ls) = lastOf (some l) ls := rfl

@[simp] theorem lastOf_append (ls ms : List Lexeme) :
    lastOf before? (ls ++ ms) = lastOf (lastOf before? ls) ms :=
  List.foldl_append

/-- What stands behind a lexeme and some more is shorter than the whole. -/
theorem length_lt (l : Lexeme) (ls rest : List Lexeme) :
    rest.length < (l :: (ls ++ rest)).length := by
  rw [List.length_cons, List.length_append]
  omega

end Lexeme

open Lexeme (lastOf)

/-- The place before some lexemes and behind another one, all of them without comments. -/
def Cursor.before (last? : Option Lexeme) (ls : List Lexeme) : Cursor :=
  ⟨ls.map Lexeme.token, last?.map Lexeme.token, []⟩

namespace Cursor

variable (last? : Option Lexeme) (ls : List Lexeme)

@[simp] theorem before_rest_length : (before last? ls).rest.length = ls.length := by
  simp [before]

@[simp] theorem before_last? : (before last? ls).last? = last?.map Lexeme.token := rfl

@[simp] theorem before_again : (before last? ls).again = before last? ls := by
  cases last? <;> rfl

theorem start_tokens : start (ls.map Lexeme.token) = before none ls := rfl

end Cursor

namespace Parser

variable {α β : Type}

/-! ## The steps of a parser -/

@[simp] theorem run_bind (p : Parser α) (f : α → Parser β) (c : Cursor) :
    (p >>= f) c = (p c).bind fun r => f r.1 r.2 := rfl

@[simp] theorem run_map (f : α → β) (p : Parser α) (c : Cursor) :
    (f <$> p) c = (p c).map fun r => (f r.1, r.2) := by
  show (p c).bind _ = _
  cases p c <;> rfl

@[simp] theorem run_pure (a : α) (c : Cursor) : (pure a : Parser α) c = some (a, c) := rfl

@[simp] theorem run_failure (c : Cursor) : (failure : Parser α) c = none := rfl

@[simp] theorem run_get (c : Cursor) : (get : Parser Cursor) c = some (c, c) := rfl

@[simp] theorem run_ite (P : Prop) [Decidable P] (p q : Parser α) (c : Cursor) :
    (if P then p else q) c = if P then p c else q c := by
  split <;> rfl

@[simp] theorem run_discard (p : Parser α) (c : Cursor) :
    (discard p) c = (p c).map fun r => (⟨⟩, r.2) := by
  show (p c).bind _ = _
  cases p c <;> rfl

@[simp] theorem run_andM (p q : Parser Bool) (c : Cursor) :
    (p <&&> q) c = (p c).bind fun r => if r.1 then q r.2 else some (false, r.2) := by
  show (p c).bind _ = _
  congr 1
  funext r
  obtain ⟨_ | _, c⟩ := r <;> rfl

@[simp] theorem run_notM (p : Parser Bool) (c : Cursor) :
    (notM p) c = (p c).map fun r => (!r.1, r.2) := by
  show (p c).bind _ = _
  cases p c <;> rfl

@[simp] theorem run_orM (p q : Parser Bool) (c : Cursor) :
    (p <||> q) c = (p c).bind fun r => if r.1 then some (true, r.2) else q r.2 := by
  show (p c).bind _ = _
  congr 1
  funext r
  obtain ⟨_ | _, c⟩ := r <;> rfl

section

variable (last? : Option Lexeme) (l : Lexeme) (ls : List Lexeme)

@[simp] theorem run_ahead? :
    ahead? (.before last? ls) = some (ls.head?, .before last? ls) := by
  cases ls <;> rfl

@[simp] theorem run_second? :
    second? (.before last? ls) = some (ls[1]?, .before last? ls) := by
  rcases ls with _ | ⟨l, _ | ⟨m, ls⟩⟩ <;> rfl

@[simp] theorem run_last? :
    Parser.last? (.before last? ls) = some (last?, .before last? ls) := by
  cases last? <;> rfl

@[simp] theorem run_lastContent :
    lastContent (.before last? ls) = some ((last?.map Lexeme.content).getD "", .before last? ls) := by
  simp [lastContent]

@[simp] theorem run_advance :
    advance (.before last? (l :: ls)) = some (⟨⟩, .before (some l) ls) := rfl

@[simp] theorem run_pending :
    pending (.before last? ls) = some ([], .before last? ls) := rfl

@[simp] theorem run_taken :
    taken (.before last? ls) = some ([], .before last? ls) := rfl

@[simp] theorem run_made (e : Expr) :
    made e (.before last? ls) = some (e, .before last? ls) := by
  simp [made, Expr.annotated]

@[simp] theorem run_madeWith (e : Expr) :
    madeWith [] e (.before last? ls) = some (e, .before last? ls) := by
  simp [madeWith]

@[simp] theorem run_sees (is : Lexeme → Bool) :
    sees is (.before last? ls) = some (ls.head?.any is, .before last? ls) := by
  simp [sees]

@[simp] theorem run_accept (is : Lexeme → Bool) :
    accept is (.before last? (l :: ls)) =
      if is l then some (true, .before (some l) ls) else some (false, .before last? (l :: ls)) := by
  simp [accept]

theorem run_accept_of_not {is : Lexeme → Bool} (h : ls.head?.any is = false) :
    accept is (.before last? ls) = some (false, .before last? ls) := by
  simp [accept, h]

@[simp] theorem run_keyword (kind : String) :
    keyword kind (.before last? (l :: ls)) = if l.isKeyword kind then
      some (true, .before (some l) ls) else some (false, .before last? (l :: ls)) :=
  run_accept ..

@[simp] theorem run_symbol (mark : String) :
    symbol mark (.before last? (l :: ls)) = if l.isSymbol mark then
      some (true, .before (some l) ls) else some (false, .before last? (l :: ls)) :=
  run_accept ..

@[simp] theorem run_expectSymbol (mark : String) :
    expectSymbol mark (.before last? (.symbol mark :: ls)) =
      some (⟨⟩, .before (some (.symbol mark)) ls) := by
  simp [expectSymbol, Lexeme.isSymbol]

@[simp] theorem run_closed (e : Expr) :
    closed e (.before last? (.symbol ")" :: ls)) = some (e, .before (some (.symbol ")")) ls) := by
  simp [closed]

@[simp] theorem run_accept_nil (is : Lexeme → Bool) :
    accept is (.before last? []) = some (false, .before last? []) :=
  run_accept_of_not last? [] rfl

theorem run_acceptBoth_of_not {isFirst isSecond : Lexeme → Bool}
    (h : ls.head?.any isFirst = false ∨ ls[1]?.any isSecond = false) :
    acceptBoth isFirst isSecond (.before last? ls) = some (false, .before last? ls) := by
  rcases h with h | h <;> simp [acceptBoth, h]

theorem run_acceptBoth {isFirst isSecond : Lexeme → Bool} {m : Lexeme} (hl : isFirst l = true)
    (hm : isSecond m = true) :
    acceptBoth isFirst isSecond (.before last? (l :: m :: ls)) =
      some (true, .before (some m) ls) := by
  simp [acceptBoth, hl, hm]

/-- Going back among the same tokens: nothing happens if no token was read. -/
theorem run_retreat (before? : Option Lexeme) (ms : List Lexeme) :
    retreat (.before before? ms) (.before last? ls) =
      some (⟨⟩, if ls.length = ms.length then .before last? ls else .before before? ms) := by
  by_cases h : ls.length = ms.length
  · simp [retreat, h]
  · simp [retreat, h]
    rfl

@[simp] theorem run_retreat_self (before? : Option Lexeme) :
    retreat (.before before? ls) (.before last? ls) = some (⟨⟩, .before last? ls) := by
  simp [run_retreat]

/-- Going back over tokens that were read. -/
theorem run_retreat_of_lt {before? : Option Lexeme} {ms : List Lexeme}
    (h : ls.length < ms.length) :
    retreat (.before before? ms) (.before last? ls) = some (⟨⟩, .before before? ms) := by
  rw [run_retreat, if_neg (Nat.ne_of_lt h)]

end

/-! ## Reading, and reading nothing -/

/-- In front of some lexemes and others behind them, the parser reads the first ones with an
answer. -/
def Reads (p : Parser α) (ls : List Lexeme) (a : α) (rest : List Lexeme) : Prop :=
  ∀ last?, p (.before last? (ls ++ rest)) = some (a, .before (lastOf last? ls) rest)

/-- In front of some lexemes, the parser reads nothing and has an answer. -/
def Leaves (p : Parser α) (a : α) (rest : List Lexeme) : Prop :=
  ∀ last?, p (.before last? rest) = some (a, .before last? rest)

theorem Reads.one {p : Parser α} {l : Lexeme} {a : α} {rest : List Lexeme} (h : Reads p [l] a rest)
    (last? : Option Lexeme) : p (.before last? (l :: rest)) = some (a, .before (some l) rest) :=
  h last?

/-! ## Loops -/

/-- A step, repeated, leads from a value at one place to another one at another place, and reads a
token at least each time. -/
inductive Steps (step : α → Parser (Option α)) : α → Cursor → α → Cursor → Prop
  | refl (a : α) (c : Cursor) : Steps step a c a c
  | head {a a' b : α} {c c' d : Cursor} (h : step a c = some (some a', c'))
      (hlt : c'.rest.length < c.rest.length) (hs : Steps step a' c' b d) : Steps step a c b d

namespace Steps

variable {step : α → Parser (Option α)} {a b e : α} {c d f : Cursor}

/-- No step goes back. -/
theorem length_le (h : Steps step a c b d) : d.rest.length ≤ c.rest.length := by
  induction h with
  | refl => exact Nat.le_refl _
  | head _ hlt _ ih => exact Nat.le_trans ih (Nat.le_of_lt hlt)

theorem trans (h : Steps step a c b d) (h' : Steps step b d e f) : Steps step a c e f := by
  induction h with
  | refl => exact h'
  | head hstep hlt _ ih => exact .head hstep hlt (ih h')

theorem single (h : step a c = some (some b, d)) (hlt : d.rest.length < c.rest.length) :
    Steps step a c b d :=
  .head h hlt (.refl b d)

/-- A loop goes on as long as its step does, if there are as many rounds as tokens. -/
theorem repeatUpTo_eq (h : Steps step a c b d) (hend : step b d = some (none, d)) {n : Nat}
    (hn : c.rest.length < n) : repeatUpTo step n a c = some (b, d) := by
  induction h generalizing n with
  | refl =>
    obtain ⟨n, rfl⟩ := Nat.exists_eq_add_one_of_ne_zero (Nat.ne_of_gt (Nat.zero_lt_of_lt hn))
    simp [repeatUpTo, hend]
  | head hstep hlt _ ih =>
    obtain ⟨n, rfl⟩ := Nat.exists_eq_add_one_of_ne_zero (Nat.ne_of_gt (Nat.zero_lt_of_lt hn))
    simp [repeatUpTo, hstep, ih hend (Nat.lt_of_lt_of_le hlt (Nat.le_of_lt_succ hn))]

theorem iterate_eq (h : Steps step a c b d) (hend : step b d = some (none, d)) :
    iterate step a c = some (b, d) := by
  have hrounds : c.rest.length < c.rest.length + 2 := by omega
  simp [iterate, h.repeatUpTo_eq hend hrounds]

end Steps

/-- A loop whose step finds nothing. -/
theorem iterate_leaves {step : α → Parser (Option α)} {a : α} {rest : List Lexeme}
    (h : Leaves (step a) none rest) : Leaves (iterate step a) a rest :=
  fun last? => (Steps.refl a _).iterate_eq (h last?)

/-- A parser that finds nothing is not repeated. -/
theorem many_leaves {p : Parser (Option α)} {rest : List Lexeme} (h : Leaves p none rest) :
    Leaves (many p) [] rest := by
  intro last?
  have hstep : Leaves (do return (← p).map (· :: ([] : List α))) none rest :=
    fun last? => by simp [h last?]
  simp only [many, run_bind]
  rw [iterate_leaves hstep last?]
  rfl

/-- A parser that reads something for each of some things in a row. -/
theorem many_reads {ι : Type} {p : Parser (Option α)} {phrase : ι → List Lexeme} {value : ι → α}
    {good : List Lexeme → Prop} {xs : List ι} {rest : List Lexeme} (hrest : good rest)
    (hgood : ∀ x ∈ xs, ∀ rest, good rest → good (phrase x ++ rest))
    (hread : ∀ x ∈ xs, ∀ rest, good rest → Reads p (phrase x) (some (value x)) rest)
    (hne : ∀ x ∈ xs, phrase x ≠ []) (hend : Leaves p none rest) :
    Reads (many p) (xs.flatMap phrase) (xs.map value) rest := by
  have hsteps : ∀ (xs' : List ι), (∀ x ∈ xs', x ∈ xs) → ∀ found last?,
      Steps (fun found => return (← p).map (· :: found)) found
        (.before last? (xs'.flatMap phrase ++ rest)) ((xs'.map value).reverse ++ found)
        (.before (lastOf last? (xs'.flatMap phrase)) rest) := by
    intro xs' hxs'
    induction xs' with
    | nil => exact fun found last? => .refl ..
    | cons x xs' ih =>
      obtain ⟨hx, hxs'⟩ := List.forall_mem_cons.mp hxs'
      intro found last?
      have hgoodMore : ∀ (zs : List ι), (∀ z ∈ zs, z ∈ xs) → good (zs.flatMap phrase ++ rest) := by
        intro zs hzs
        induction zs with
        | nil => exact hrest
        | cons z zs ihz =>
          obtain ⟨hz, hzs⟩ := List.forall_mem_cons.mp hzs
          simpa using hgood z hz _ (ihz hzs)
      have hstep := hread x hx _ (hgoodMore xs' hxs') last?
      have hmore := ih hxs' (value x :: found) (lastOf last? (phrase x))
      simp only [List.flatMap_cons, List.append_assoc, List.map_cons, List.reverse_cons,
        List.nil_append, List.cons_append, Lexeme.lastOf_append] at hstep hmore ⊢
      refine .head ?_ ?_ hmore
      · simp [hstep]
      · have := List.length_pos_iff.mpr (hne x hx)
        simp
        omega
  intro last?
  have hloop := (hsteps xs (fun _ hx => hx) [] last?).iterate_eq (by simp [hend _])
  simp only [many, run_bind, hloop, Option.bind_some]
  simp

/-! ## One keyword of several -/

theorem keywordOf_leaves {kinds : List String} {rest : List Lexeme}
    (h : ∀ kind ∈ kinds, rest.head?.any (·.isKeyword kind) = false) :
    Leaves (keywordOf kinds) none rest := by
  intro last?
  have hfind : kinds.find? (fun kind => rest.head?.any (·.isKeyword kind)) = none := by
    rw [List.find?_eq_none]
    exact fun kind hkind => by simp [h kind hkind]
  simp [keywordOf, hfind]

theorem keywordOf_reads {kinds : List String} {kind : String} (h : kind ∈ kinds) (s : String)
    (rest : List Lexeme) : Reads (keywordOf kinds) [.keyword kind s] (some kind) rest := by
  intro last?
  have hfind : kinds.find? (fun k => (Lexeme.keyword kind s).isKeyword k) = some kind := by
    cases hfound : kinds.find? (fun k => (Lexeme.keyword kind s).isKeyword k) with
    | none => simpa [Lexeme.isKeyword] using List.find?_eq_none.mp hfound kind h
    | some k =>
      have hk : kind = k := by simpa [Lexeme.isKeyword] using List.find?_some hfound
      rw [hk]
  simp [keywordOf, hfind]

end Parser

end QueryBook.Sql
