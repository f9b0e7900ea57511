import QueryBook.Log.Logger

/-!
# Levels along the hierarchy

A logger takes its level from the first of some loggers that has one: itself, the known loggers
above it, and the root logger (`effective_eq`). Above a logger are those with the names that stand
before its dots (`mem_ancestors`, `effective_eq_ancestors`); only where dots follow each other a
name that is not known hides the one that is shorter by a dot. Asking for a logger does not change
its level (`effective_register`).
-/

namespace QueryBook

/-- The first level of some, if one of them is a level. -/
def Level.first (levels : List Level) : Level :=
  (levels.find? (· != 0)).getD 0

@[simp] theorem Level.first_singleton (l : Level) : first [l] = l := by
  by_cases h : l = 0 <;> simp [first, h]

theorem Level.first_cons (l : Level) (levels : List Level) :
    first (l :: levels) = if l = 0 then first levels else l := by
  by_cases h : l = 0 <;> simp [first, h]

namespace Loggers

/-- The level of a name; a name that is not known has none. -/
def levelOf (ls : Loggers) (name : String) : Level :=
  (ls.levels.find? name).getD 0

/-- The known loggers above a logger whose name is given from its end. -/
def aboveReversed (ls : Loggers) : List Char → List String
  | [] => []
  | '.' :: c :: cs =>
    let name := String.ofList (c :: cs).reverse
    if ls.levels.contains name then name :: ls.aboveReversed (c :: cs) else ls.aboveReversed cs
  | _ :: cs => ls.aboveReversed cs

attribute [local simp] aboveReversed

/-- The known loggers above a logger, nearest first. -/
def above (ls : Loggers) (name : String) : List String :=
  ls.aboveReversed name.toList.reverse

/-- The names above a name that is given from its end. -/
def ancestorsReversed : List Char → List String
  | [] => []
  | '.' :: c :: cs => String.ofList (c :: cs).reverse :: ancestorsReversed (c :: cs)
  | _ :: cs => ancestorsReversed cs

/-- The names above a name, nearest first: those that end before one of its dots. -/
def ancestors (name : String) : List String :=
  ancestorsReversed name.toList.reverse

/-- The levels that count for a logger if certain loggers are above it. -/
def levelsAlong (ls : Loggers) (name : String) (names : List String) : List Level :=
  ls.ownLevel name :: names.map ls.levelOf ++ [ls.root]

section

variable {ls : Loggers} {c : Char} {cs : List Char}

theorem aboveReversed_of_known (h : ls.levels.contains (String.ofList (c :: cs).reverse) = true) :
    ls.aboveReversed ('.' :: c :: cs) =
      String.ofList (c :: cs).reverse :: ls.aboveReversed (c :: cs) := by
  simp only [aboveReversed, h, if_true]

theorem aboveReversed_of_unknown (h : ls.levels.find? (String.ofList (c :: cs).reverse) = none) :
    ls.aboveReversed ('.' :: c :: cs) = ls.aboveReversed cs := by
  simp only [aboveReversed, NameMap.contains, h, Option.isSome_none, Bool.false_eq_true, if_false]

end

/-- A logger takes the first level there is above it. -/
theorem inherited_eq (ls : Loggers) (cs : List Char) :
    ls.inherited cs = Level.first ((ls.aboveReversed cs).map ls.levelOf ++ [ls.root]) := by
  fun_induction inherited ls cs with
  | case1 => simp
  | case2 c cs hzero ih =>
    rw [aboveReversed_of_known (by rw [NameMap.contains, hzero]; rfl), List.map_cons,
      List.cons_append, Level.first_cons, if_pos (by rw [levelOf, hzero]; rfl), ih]
  | case3 c cs level hne hlevel =>
    have hlevelOf : ls.levelOf (String.ofList (c :: cs).reverse) = level := by
      rw [levelOf, hlevel]
      rfl
    rw [aboveReversed_of_known (by rw [NameMap.contains, hlevel]; rfl), List.map_cons,
      List.cons_append, Level.first_cons, hlevelOf, if_neg fun hzero => hne hzero]
  | case4 c cs hnone ih => rw [aboveReversed_of_unknown hnone, ih]
  | case5 c cs h ih =>
    have habove : ls.aboveReversed (c :: cs) = ls.aboveReversed cs := by
      rw [aboveReversed]
      exact h
    rw [habove, ih]

/-- **The level of a logger is the first one on the way to the root logger**: its own, that of the
nearest known logger above it that has one, or that of the root logger. -/
theorem effective_eq (ls : Loggers) (name : String) :
    ls.effective name = Level.first (ls.levelsAlong name (ls.above name)) := by
  rw [effective, levelsAlong, List.cons_append, Level.first_cons]
  split
  · next hroot =>
    have hown : ls.ownLevel name = ls.root := by rw [ownLevel, if_pos hroot]
    have habove : ls.above name = [] := by
      simp only [isRoot, rootName, Bool.or_eq_true, beq_iff_eq] at hroot
      rcases hroot with rfl | rfl <;> rfl
    rw [hown, habove, List.map_nil, List.nil_append, Level.first_singleton, ite_self]
  · rw [inherited_eq, above]

/-! ## Names above a name -/

theorem mem_ancestorsReversed {cs : List Char} {name : String} :
    name ∈ ancestorsReversed cs ↔ name ≠ "" ∧ '.' :: name.toList.reverse <:+ cs := by
  fun_induction ancestorsReversed cs with
  | case1 => simp
  | case2 c cs ih =>
    have hwhole : '.' :: name.toList.reverse = '.' :: c :: cs ↔
        name = String.ofList (c :: cs).reverse := by
      rw [List.cons_inj_right, List.reverse_eq_iff, ← String.toList_inj, String.toList_ofList]
    rw [List.mem_cons, ih, List.suffix_cons_iff (a := '.'), hwhole, and_or_left]
    refine or_congr_left (iff_and_self.2 ?_)
    rintro rfl
    simp
  | case3 x cs hdot ih =>
    rw [ih, List.suffix_cons_iff, and_or_left]
    refine (or_iff_right ?_).symm
    rintro ⟨hname, hwhole⟩
    obtain ⟨rfl, rfl⟩ := List.cons.inj hwhole
    cases hcs : name.toList.reverse with
    | nil => exact hname (String.toList_inj.1 (List.reverse_eq_nil_iff.1 hcs))
    | cons c cs => exact hdot c cs rfl hcs

/-- The names above a name are those that stand before one of its dots. -/
theorem mem_ancestors {name other : String} :
    other ∈ ancestors name ↔ other ≠ "" ∧ other.toList ++ ['.'] <+: name.toList := by
  rw [ancestors, mem_ancestorsReversed, ← List.reverse_suffix, List.reverse_concat]

/-- Where no two dots follow each other, all known loggers of the names above count. -/
theorem aboveReversed_eq_filter (ls : Loggers) {cs : List Char} (h : ¬ ['.', '.'] <:+: cs) :
    ls.aboveReversed cs = (ancestorsReversed cs).filter ls.levels.contains := by
  fun_induction ancestorsReversed cs with
  | case1 => rfl
  | case2 c cs ih =>
    have hcs : ¬ ['.', '.'] <:+: c :: cs := fun hin => h (hin.trans (List.suffix_cons _ _).isInfix)
    by_cases hknown : ls.levels.contains (String.ofList (c :: cs).reverse) = true
    · rw [aboveReversed_of_known hknown, List.filter_cons_of_pos hknown, ih hcs]
    · have hfind : ls.levels.find? (String.ofList (c :: cs).reverse) = none := by
        simpa only [NameMap.contains, Bool.not_eq_true, Option.isSome_eq_false_iff,
          Option.isNone_iff_eq_none] using hknown
      -- The name that is passed over does not end in a dot.
      have hpass : ls.aboveReversed (c :: cs) = ls.aboveReversed cs := by
        rw [aboveReversed]
        rintro _ rest rfl rfl
        exact h ⟨[], _, rfl⟩
      rw [aboveReversed_of_unknown hfind, List.filter_cons_of_neg hknown, ← ih hcs, hpass]
  | case3 x cs hdot ih =>
    have hcs : ¬ ['.', '.'] <:+: cs := fun hin => h (hin.trans (List.suffix_cons _ _).isInfix)
    rw [aboveReversed, ih hcs]
    exact hdot

/-- A name that is not known has no level to pass on. -/
theorem first_filter (ls : Loggers) (names : List String) (levels : List Level) :
    Level.first ((names.filter ls.levels.contains).map ls.levelOf ++ levels) =
      Level.first (names.map ls.levelOf ++ levels) := by
  induction names with
  | nil => rfl
  | cons name names ih =>
    by_cases hknown : ls.levels.contains name = true
    · rw [List.filter_cons_of_pos hknown, List.map_cons, List.map_cons, List.cons_append,
        List.cons_append, Level.first_cons, Level.first_cons, ih]
    · have hfind : ls.levels.find? name = none := by
        simpa [NameMap.contains] using hknown
      rw [List.filter_cons_of_neg hknown, List.map_cons, List.cons_append, Level.first_cons,
        if_pos (by rw [levelOf, hfind]; rfl), ih]

/-- Where no two dots follow each other, the level of a logger is its own, or else that of the
nearest name above it that has one, or else that of the root logger. -/
theorem effective_eq_ancestors (ls : Loggers) {name : String}
    (h : ¬ ['.', '.'] <:+: name.toList) :
    ls.effective name = Level.first (ls.levelsAlong name (ancestors name)) := by
  have hreverse : ¬ ['.', '.'] <:+: name.toList.reverse :=
    fun hin => h (List.reverse_infix.1 hin)
  rw [effective_eq, above, aboveReversed_eq_filter ls hreverse, ancestors, levelsAlong, levelsAlong,
    List.cons_append, List.cons_append, Level.first_cons, Level.first_cons, first_filter]

/-! ## Asking for a logger -/

theorem find?_insert_shorter (levels : NameMap Level) {name : String} (level : Level)
    {cs : List Char} (h : cs.length < name.toList.length) :
    (levels.insert name level).find? (String.ofList cs.reverse) =
      levels.find? (String.ofList cs.reverse) := by
  rw [NameMap.find?_insert, if_neg]
  rintro rfl
  simp at h

/-- Levels of names that are not shorter do not count for what stands above a name. -/
theorem inherited_insert (ls : Loggers) (name : String) (level : Level) {cs : List Char}
    (h : cs.length ≤ name.toList.length) :
    Loggers.inherited { ls with levels := ls.levels.insert name level } cs = ls.inherited cs := by
  fun_induction inherited ls cs with
  | case1 => rfl
  | case2 c cs hzero ih =>
    rw [inherited, find?_insert_shorter ls.levels level h, hzero]
    exact ih (Nat.le_of_lt h)
  | case3 c cs found hne hfound =>
    rw [inherited, find?_insert_shorter ls.levels level h, hfound]
    split
    · next hzero => cases hzero; exact absurd rfl hne
    · next hsome => cases hsome; rfl
    · next hnone => cases hnone
  | case4 c cs hnone ih =>
    rw [inherited, find?_insert_shorter ls.levels level h, hnone]
    exact ih (by simp at h ⊢; omega)
  | case5 x cs hdot ih =>
    rw [inherited]
    · exact ih (Nat.le_of_lt h)
    · exact hdot

/-- Asking for a logger does not change its level. -/
theorem effective_register (ls : Loggers) (name : String) :
    (ls.register name).effective name = ls.effective name := by
  rw [register]
  split
  · rfl
  · next hnew =>
    obtain ⟨hroot, hunknown⟩ := not_or.1 (mt Bool.or_eq_true_iff.2 hnew)
    have hfind : ls.levels.find? name = none := by
      simpa [NameMap.contains] using hunknown
    have hown : ls.ownLevel name = 0 := by simp [ownLevel, hroot, hfind]
    have hown' : Loggers.ownLevel { ls with levels := ls.levels.insert name 0 } name = 0 := by
      simp [ownLevel, hroot, NameMap.find?_insert]
    rw [effective, effective, if_neg hroot, if_neg hroot, if_pos hown, if_pos hown',
      inherited_insert ls name 0 (by simp)]

end Loggers

end QueryBook
