import QueryBook.Proofs.Sql.Reader.Argument

/-!
# Reading types

The types that a cast names are words, perhaps with sizes between parentheses: types that hold
others, and those with a grammar of their own, are left out.
-/

namespace QueryBook.Sql

namespace Parser

variable {g : Grammar} {rest : List Lexeme}

/-- Types that are written as a word, perhaps with sizes. -/
def TypeHead.isPlain : TypeHead → Bool
  | .kind k => !Keyword.nestedTypes.contains k && !(["ENUM", "INTERVAL", "NULLABLE"].contains k)
  | .user _ => true

/-- The head of a type by its lexeme. -/
def typeHead? : Lexeme → Option TypeHead
  | .keyword kind _ => if Keyword.isType kind then some (.kind kind) else none
  | .word s => some (.user s)
  | _ => none

theorem typeHead_reads {l : Lexeme} {head : TypeHead} (hl : typeHead? l = some head)
    (hpoint : rest.head?.any (·.isSymbol ".") = false) :
    Reads (typeHead g false) [l] (some head) rest := by
  intro last?
  cases l with
  | keyword kind s =>
    obtain ⟨hkind, rfl⟩ : Keyword.isType kind = true ∧ TypeHead.kind kind = head := by
      simpa [typeHead?] using hl
    simp [typeHead, hkind]
  | word s =>
    cases hl
    have hname : Reads (nameWhere g false fun _ => false) [.word s] (some (.name (.plain s))) rest :=
      nameWhere_reads rfl rfl
    have hpath : Leaves (typePath s) s rest := iterate_leaves fun last? => by
      simp [symbol_leaves _ hpoint last?]
    simp [typeHead, hname.one, Expr.bare, hpath _]
  | _ => cases hl

/-- The lexemes of sizes behind a type. -/
def sizeLexemes (sizes : List String) : List Lexeme :=
  if sizes = [] then []
  else .symbol "(" :: (Lexeme.commas (sizes.map fun s => [.number s]) ++ [.symbol ")"])

theorem typeSize_reads {s : String} (hu : Reads g.unary [.number s] (some (.number s)) rest)
    (hf : Follows .argument rest) : Reads (typeSize g) [.number s] (some (.number s)) rest := by
  intro last?
  have hword : Leaves (wordWhere g true fun _ => false) none rest := fun last? => by
    have hnone : rest.head?.any (fun l => true && !l.isNoName || isWordOf (fun _ => false) l) = false :=
      hf.head_any (by decide)
    have hid : rest.head?.any Lexeme.beginsIdentifier = false := hf.head_any (by decide)
    simp only [wordWhere, run_bind, run_accept_of_not _ _ hnone, Option.bind_some]
    exact placeholder_leaves hid last?
  simp [typeSize, hu.one, hword _]

/-- Where neither the words of arrays nor a bracket follow, a type is no array. -/
theorem typeArrays_leaves (h : rest.head?.any (fun l => l.isKeyword "LIST" || l.isKeyword "ARRAY" ||
    l.isSymbol "[") = false) (t : Expr) : Leaves (typeArrays g t) t rest := by
  intro last?
  have hmany : Leaves (many do if ← keyword "LIST" then return some () else return none) [] rest :=
    many_leaves fun last? => by simp [keyword_leaves "LIST" (any_eq_false h (by simp_all)) last?]
  have harray := keyword_leaves "ARRAY" (any_eq_false h (by simp_all)) last?
  have hbracket := symbol_leaves "[" (any_eq_false h (by simp_all))
  simp only [typeArrays, run_bind, hmany last?, Option.bind_some, run_get, harray, List.foldl_nil]
  rw [iterate_leaves (a := (t, false, false)) (fun last? => by
    cases rest.head? <;> simp [hbracket last?]) last?]
  rfl

/-- A plain type holds no others and is none of the kinds with a grammar of their own. -/
theorem TypeHead.isKind_of_isPlain {head : TypeHead} (h : head.isPlain = true) :
    head.isNested = false ∧
      ∀ kind ∈ ["ENUM", "INTERVAL", "NULLABLE"], head.isKind kind = false := by
  cases head <;> simp_all [isPlain, isNested, isKind]

/-- The sizes behind a type, between parentheses. -/
theorem typeSizes_reads {head : TypeHead} {sizes : List String} (hhead : head.isPlain = true)
    (hsizes : sizes ≠ [])
    (hu : ∀ s rest, Follows .argument rest → Reads g.unary [.number s] (some (.number s)) rest)
    (hnumbers : ∀ s ∈ sizes, (Lexeme.number s).isTame = true) (htame : ∀ l ∈ rest, l.isTame = true) :
    Reads (typeSizes g head false) (Lexeme.commas (sizes.map fun s => [.number s]))
      (sizes.map .number) (.symbol ")" :: rest) := by
  have hf : Follows .argument (.symbol ")" :: rest) :=
    .cons (by decide) (by simp) (by decide) htame
  have hread : Reads (separated (typeSize g)) (Lexeme.commas (sizes.map fun s => [.number s]))
      (sizes.map .number) (.symbol ")" :: rest) :=
    separated_reads (by decide) hf rfl hsizes (fun s _ rest hf => typeSize_reads (hu s rest hf) hf)
      fun s hs l hl => by
        rw [List.mem_singleton.mp hl]
        exact hnumbers s hs
  obtain ⟨hnested, hkind⟩ := head.isKind_of_isPlain hhead
  intro last?
  simp only [typeSizes, hnested, hkind "ENUM" (by simp), Bool.false_eq_true, if_false]
  exact hread last?

/-- No words stand at a closing parenthesis. -/
theorem reads_leaves_closing {word : String} (words : List String) (hw : word ≠ ")") :
    Leaves (reads (word :: words)) false (.symbol ")" :: rest) := by
  refine reads_leaves ?_
  rw [List.head?_cons, Option.any_some, Level.followers_capital _ (by decide)]
  exact beq_eq_false_iff_ne.mpr hw.symm

/-- A time before a closing parenthesis has no zone. -/
theorem timeZone_leaves (kind : String) : Leaves (timeZone kind) none (.symbol ")" :: rest) := by
  intro last?
  have hword (word : String) (words : List String) (hw : word ≠ ")") :
      Leaves (reads (word :: words)) false (.symbol ")" :: rest) := reads_leaves_closing words hw
  simp only [timeZone, hword "WITH" _ (by decide) _, hword "WITHOUT" _ (by decide) _, run_bind,
    run_pure, run_ite, Option.bind_some, Bool.false_eq_true, if_false, ite_self]

/-- The type of a plain head before a closing parenthesis. -/
theorem headType_leaves {head : TypeHead} (h : head.isPlain = true) (arguments : List Expr) :
    Leaves (headType g head arguments) (.type head.printed arguments false)
      (.symbol ")" :: rest) := by
  intro last?
  obtain ⟨hnested, hkind⟩ := head.isKind_of_isPlain h
  cases head with
  | user name => rfl
  | kind kind =>
    have hinterval : (kind == "INTERVAL") = false := hkind "INTERVAL" (by simp)
    have hunsigned : Leaves (reads ["UNSIGNED"]) false (.symbol ")" :: rest) :=
      reads_leaves_closing [] (by decide)
    simp only [headType, hinterval, hunsigned _, TypeHead.printed, hnested, run_bind, run_pure,
      run_ite, Option.bind_some, if_false, Bool.false_eq_true]

/-- A type behind `AS` in a cast, perhaps with sizes. -/
theorem type_reads {l : Lexeme} {head : TypeHead} {sizes : List String}
    (hl : typeHead? l = some head) (hhead : head.isPlain = true)
    (hu : ∀ s rest, Follows .argument rest → Reads g.unary [.number s] (some (.number s)) rest)
    (hnumbers : ∀ s ∈ sizes, (Lexeme.number s).isTame = true) (htame : ∀ l ∈ rest, l.isTame = true) :
    Reads (type g false) (l :: sizeLexemes sizes)
      (some (.type head.printed (sizes.map .number) false)) (.symbol ")" :: rest) := by
  intro last?
  obtain ⟨hnested, hkind⟩ := head.isKind_of_isPlain hhead
  have hnullable := hkind "NULLABLE" (by simp)
  have harrays (t : Expr) : Leaves (typeArrays g t) t (.symbol ")" :: rest) := typeArrays_leaves rfl t
  have htype (arguments : List Expr) : Leaves (headType g head arguments)
      (.type head.printed arguments false) (.symbol ")" :: rest) := headType_leaves hhead arguments
  by_cases hsizes : sizes = []
  · have hstart : Reads (typeHead g false) [l] (some head) (.symbol ")" :: rest) :=
      typeHead_reads hl rfl
    cases head <;>
      simp only [type, sizeLexemes, hsizes, hstart.one, hnested, hnullable, timeZone_leaves _ _,
        htype _ _, harrays _ _, run_bind, run_pure, run_ite, run_get, run_andM, run_notM,
        run_symbol, Option.bind_some, Option.map_some, List.cons_append, List.nil_append,
        List.isEmpty_nil, List.map_nil, if_true, if_false, Bool.false_eq_true, Bool.and_true,
        Bool.and_false, Bool.false_and, Bool.not_true, beq_self_eq_true, String.reduceBEq,
        Lexeme.isSymbol_symbol, Lexeme.lastOf_cons, Lexeme.lastOf_nil]
  · have hstart : Reads (typeHead g false) [l] (some head) (.symbol "(" ::
        (Lexeme.commas (sizes.map fun s => [.number s]) ++ .symbol ")" :: .symbol ")" :: rest)) :=
      typeHead_reads hl rfl
    have htame' : ∀ l ∈ .symbol ")" :: rest, l.isTame = true :=
      List.forall_mem_cons.mpr ⟨by decide, htame⟩
    have hread := typeSizes_reads hhead hsizes hu hnumbers htame'
    cases head <;>
      simp only [type, sizeLexemes, hsizes, hstart.one, hread _, hnested, hnullable,
        timeZone_leaves _ _, htype _ _, harrays _ _, run_bind, run_pure, run_ite, run_get, run_andM,
        run_notM, run_symbol, Option.bind_some, Option.map_some, List.append_assoc,
        List.cons_append, List.nil_append, List.isEmpty_nil, if_true, if_false,
        Bool.false_eq_true, Bool.and_true, Bool.and_false, Bool.false_and, Bool.not_true,
        beq_self_eq_true, Lexeme.isSymbol_symbol, Lexeme.lastOf_append, Lexeme.lastOf_cons,
        Lexeme.lastOf_nil]

/-- Behind an argument, no type follows. -/
theorem type_leaves_end (hf : Follows .argument rest) : Leaves (type g false) none rest := by
  intro last?
  have hname : Leaves (nameWhere g false fun _ => false) none rest :=
    nameWhere_leaves (hf.head_any (by decide))
  have hhead : Leaves (typeHead g false) none rest := fun last? => by
    have hsymbol : ∀ l ∈ Level.argument.followers, l = .symbol l.content := by decide
    rcases rest with _ | ⟨l, rest⟩
    · simp only [typeHead, hname last?, run_bind, run_pure, run_ahead?, Option.bind_some,
        List.head?_nil, if_false, Bool.false_eq_true]
    · obtain ⟨s, rfl⟩ : ∃ s, l = .symbol s := ⟨_, hsymbol l (hf.head l rfl)⟩
      simp only [typeHead, hname last?, run_bind, run_pure, run_ahead?, Option.bind_some,
        List.head?_cons, if_false, Bool.false_eq_true]
  simp only [type, hhead last?, run_bind, run_pure, run_get, Option.bind_some, if_false,
    Bool.false_eq_true, Bool.and_false]

/-! ## Types as names -/

/-- A type that is only a word is read as one, unless it needs an argument. -/
theorem type_reads_word {kind s : String} (hkind : Keyword.isType kind = true)
    (hinterval : kind ≠ "INTERVAL") (hnull : kind ≠ "NULLABLE") (hf : Follows .factor rest)
    (hangle : kind ∈ Keyword.nestedTypes → rest.head?.any (·.isSymbol "<") = false) :
    Reads (type g true) [.keyword kind s]
      (some (.type (Keyword.typeName kind) [] (Keyword.nestedTypes.contains kind))) rest := by
  have hhead : Reads (typeHead g true) [.keyword kind s] (some (.kind kind)) rest := fun last? => by
    simp only [typeHead, hkind, run_bind, run_pure, run_ite, run_ahead?, run_advance,
      Option.bind_some, List.cons_append, List.nil_append, List.head?_cons, if_true,
      Lexeme.lastOf_cons, Lexeme.lastOf_nil]
  have hparen := hf.symbol "(" (by decide)
  have hsign := hf.reads "UNSIGNED" [] (by decide)
  have hwith := hf.reads "WITH" ["TIME", "ZONE"] (by decide)
  have hlocal := hf.reads "WITH" ["LOCAL", "TIME", "ZONE"] (by decide)
  have hwithout := hf.reads "WITHOUT" ["TIME", "ZONE"] (by decide)
  have hzone : Leaves (timeZone kind) none rest := fun last? => by
    by_cases h : Keyword.timeTypes.contains kind = true <;> simp only [timeZone, h] <;>
      simp [hwith last?, hlocal last?, hwithout last?]
  have harrays (t : Expr) : Leaves (typeArrays g t) t rest := typeArrays_leaves (hf.head_any (by decide)) t
  have hnullable : TypeHead.isKind "NULLABLE" (.kind kind) = false := by
    simpa [TypeHead.isKind] using hnull
  have hheadType : Leaves (headType g (.kind kind) [])
      (.type (Keyword.typeName kind) [] (Keyword.nestedTypes.contains kind)) rest := fun last? => by
    simp [headType, hinterval, hsign last?, TypeHead.isNested]
  intro last?
  by_cases hnested : kind ∈ Keyword.nestedTypes
  · simp only [type, hhead.one _, hparen _, TypeHead.isNested, symbol_leaves _ (hangle hnested) _,
      hzone _, hnullable, hheadType _, harrays _ _, run_bind, run_pure, run_ite, run_get, run_andM,
      run_notM, Option.bind_some, List.cons_append, List.nil_append, List.isEmpty_nil, if_false,
      ite_self, Bool.false_eq_true, Bool.and_true, Bool.false_and, Lexeme.lastOf_cons,
      Lexeme.lastOf_nil]
  · simp [type, hhead.one _, hparen _, TypeHead.isNested, hnested, hzone _, hnullable,
      hheadType _, harrays _ _]

theorem type_leaves_nullable {s : String} (hf : Follows .factor rest)
    (hangle : rest.head?.any (·.isSymbol "<") = false) :
    Leaves (type g true) none (.keyword "NULLABLE" s :: rest) := by
  have hhead : Reads (typeHead g true) [.keyword "NULLABLE" s] (some (.kind "NULLABLE")) rest :=
    fun last? => rfl
  have hparen := hf.symbol "(" (by decide)
  have hzone : Leaves (timeZone "NULLABLE") none rest := fun last? => rfl
  have hnested : "NULLABLE" ∈ Keyword.nestedTypes := by decide
  have hlt : rest.length < (Lexeme.keyword "NULLABLE" s :: rest).length := by simp
  intro last?
  simp only [type, hhead.one _, hparen _, TypeHead.isNested, symbol_leaves _ hangle _, hzone _,
    TypeHead.isKind, run_retreat_of_lt _ _ hlt, run_bind, run_pure, run_ite, run_get, run_andM,
    run_notM, Option.bind_some, List.isEmpty_nil, if_true, if_false, ite_self, Bool.false_eq_true,
    Bool.and_true, Bool.false_and, beq_self_eq_true]

/-- The name of a type stands for itself where neither a literal nor an argument of the type
follows. -/
theorem typedLiteral_leaves_word {kind s : String} (hkind : Keyword.isType kind = true)
    (hinterval : kind ≠ "INTERVAL") (hf : Follows .factor rest)
    (hangle : kind ∈ Keyword.nestedTypes → rest.head?.any (·.isSymbol "<") = false) :
    Leaves (typedLiteral g) none (.keyword kind s :: rest) := by
  have hprimary : Leaves (primary g) none rest := primary_leaves (hf.head_any (by decide))
  have hlt : rest.length < (Lexeme.keyword kind s :: rest).length := by simp
  intro last?
  by_cases hnull : kind = "NULLABLE"
  · subst hnull
    simp only [typedLiteral, type_leaves_nullable hf (hangle (by decide)) _, run_bind, run_pure,
      run_get, Option.bind_some]
  · have htype := type_reads_word (g := g) (s := s) hkind hinterval hnull hf hangle
    simp only [typedLiteral, htype.one _, hprimary _, hasArguments, run_retreat_of_lt _ _ hlt,
      run_bind, run_pure, run_get, Option.bind_some, List.isEmpty_nil, if_false, Bool.false_eq_true,
      Bool.false_and, Bool.not_true]

end Parser

end QueryBook.Sql
