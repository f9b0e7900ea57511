import QueryBook.Sql.Column

/-!
# Columns named by a word

A text of word characters has tokens, since none of them begins a quote or a comment
(`scanUpTo_isSome`), and so it names a column, whatever the grammar makes of the word
(`columnOf_isOk`).
-/

namespace QueryBook.Sql

open Text

namespace Lexer

/-- A text of letters, numerals and underscores. -/
def IsWordText (cs : List Char) : Prop :=
  ∀ c ∈ cs, isWordChar c = true

theorem ne_of_isWordChar {c p : Char} (hc : isWordChar c = true) (hp : isWordChar p = false) :
    c ≠ p := by
  rintro rfl
  rw [hp] at hc
  cases hc

theorem IsWordText.mono {cs rest : List Char} (h : IsWordText cs) (hrest : ∀ c ∈ rest, c ∈ cs) :
    IsWordText rest :=
  fun c hc => h c (hrest c hc)

theorem mem_of_mem_number {c : Char} {cs : List Char} (point : Bool) (exponent : Nat)
    (h : c ∈ (number point exponent cs).2) : c ∈ cs := by
  induction cs generalizing point exponent with
  | nil => exact h
  | cons d cs ih =>
    unfold number at h
    dsimp only at h
    split at h
    · exact List.mem_cons_of_mem _ (ih _ _ h)
    split at h
    · exact List.mem_cons_of_mem _ (ih _ _ h)
    split at h
    · exact List.mem_cons_of_mem _ (ih _ _ h)
    split at h
    · exact List.mem_cons_of_mem _ (ih _ _ h)
    · exact h

theorem mem_of_mem_numeric {d : Dialect} {x c : Char} {cs : List Char}
    (h : x ∈ (numeric d c cs).2) : x ∈ c :: cs := by
  unfold numeric at h
  dsimp only at h
  split at h
  · exact List.mem_cons_of_mem _ (mem_of_mem_number _ _ ((List.dropWhile_sublist _).subset h))
  · exact List.mem_cons_of_mem _ (mem_of_mem_number _ _ h)

theorem mem_of_mem_plain {x c : Char} {cs : List Char} (h : x ∈ (plain c cs).2) : x ∈ c :: cs := by
  unfold plain at h
  split at h
  · exact List.mem_of_mem_drop h
  split at h
  · exact List.mem_cons_of_mem _ h
  split at h
  · exact List.mem_of_mem_drop h
  · exact List.mem_cons_of_mem _ ((List.dropWhile_sublist _).subset h)

/-- The next part of a text of word characters is no quote and no comment. -/
theorem next_of_isWordText {c : Char} {cs : List Char} (h : IsWordText (c :: cs)) :
    ∃ part rest, next .generic c cs = some (part, rest) ∧ ∀ x ∈ rest, x ∈ c :: cs := by
  have hc := h c List.mem_cons_self
  have hne (p : Char) (hp : isWordChar p = false) : c ≠ p := ne_of_isWordChar hc hp
  have hname : Dialect.generic.closingNameQuote? c = none := by
    have hquote : (c == '"') = false := beq_eq_false_iff_ne.2 (hne '"' (by decide))
    simp [Dialect.closingNameQuote?, Dialect.generic, List.lookup_cons, hquote]
  have htext : Dialect.generic.textQuotes.contains c = false := by
    simp [Dialect.generic, hne '\'' (by decide)]
  have hcomment : markedComment .generic (c :: cs) = none := by
    simp [markedComment, commentMarks, (hne '/' (by decide)).symm, (hne '\x7b' (by decide)).symm]
  have hmarked : markedText .generic c cs = none := by
    rw [markedText, if_neg (hne '$' (by decide))]
    rintro mark rest - rfl
    exact absurd rfl (ne_of_isWordChar (p := '\'') (h '\'' (by simp)) (by decide))
  unfold next
  split
  · exact ⟨_, _, rfl, fun x => mem_of_mem_numeric⟩
  · simp only [hname, htext, hcomment, hmarked, hne '-' (by decide), hne '#' (by decide)]
    exact ⟨_, _, rfl, fun x => mem_of_mem_plain⟩

theorem scanUpTo_isSome {cs : List Char} (n : Nat) (h : IsWordText cs) :
    (scanUpTo .generic n cs).isSome := by
  induction n generalizing cs with
  | zero => rfl
  | succ n ih =>
    cases cs with
    | nil => rfl
    | cons c cs =>
      have htail : IsWordText cs := h.mono fun _ => List.mem_cons_of_mem _
      obtain ⟨part, rest, hnext, hrest⟩ := next_of_isWordText h
      unfold scanUpTo
      split
      · simpa using ih htail
      split
      · exact ih htail
      · simpa [hnext] using ih (h.mono hrest)

end Lexer

/-- A text of word characters names a column. -/
theorem columnOf_isOk {s : String} (h : Lexer.IsWordText s.toList) :
    ∃ column, columnOf s = .ok column := by
  obtain ⟨parts, hparts⟩ := Option.isSome_iff_exists.1 (Lexer.scanUpTo_isSome s.toList.length h)
  have htokens : tokenize .generic s = some (Lexer.attach parts) := by
    rw [tokenize, Lexer.scan, hparts, Option.map_some]
  rw [columnOf, htokens]
  exact ⟨_, rfl⟩

end QueryBook.Sql
