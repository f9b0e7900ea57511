import Mathlib.Data.List.TakeWhile
import QueryBook.Binding.Placeholder
import QueryBook.Proofs.Scan

/-!
# Placeholder names

`IsName` is what the pattern of placeholders takes as a name. A name has no colon, so that tokens
with such names meet only end to end, and it is quiet: it neither opens nor closes anything in
SQL text. `mem_names` turns the search for placeholders into a statement about the places of the
text where one begins.
-/

namespace QueryBook.Placeholder

open Text

/-- A name that a placeholder can have: an ASCII letter or an underscore and then any word
characters. -/
structure IsName (name : List Char) : Prop where
  starts : name.head?.any startsName = true
  word : ∀ c ∈ name, isWordChar c = true

instance (name : List Char) : Decidable (IsName name) :=
  decidable_of_iff (name.head?.any startsName = true ∧ name.all isWordChar = true) <| by
    rw [List.all_eq_true]
    exact ⟨fun h => ⟨h.1, h.2⟩, fun h => ⟨h.starts, h.word⟩⟩

/-- Word characters are not among the characters that SQL text is read by. -/
theorem ne_of_isWordChar {c d : Char} (hc : isWordChar c = true) (hd : isWordChar d = false) :
    c ≠ d := by
  rintro rfl
  rw [hc] at hd
  cases hd

theorem IsName.quiet {name : List Char} (h : IsName name) : Scan.Quiet name :=
  Scan.quiet_of_forall fun c hc =>
    have hword := h.word c hc
    ⟨ne_of_isWordChar hword (by decide), ne_of_isWordChar hword (by decide),
      ne_of_isWordChar hword (by decide), ne_of_isWordChar hword (by decide)⟩

theorem isWordChar_of_startsName {c : Char} (h : startsName c = true) : isWordChar c = true := by
  rw [startsName, Bool.or_eq_true, beq_iff_eq] at h
  have hascii : c.toNat < 0x80 := by
    rcases h with h | rfl
    · have hletter : (decide (65 ≤ c.val ∧ c.val ≤ 90) ||
          decide (97 ≤ c.val) && decide (c.val ≤ 122)) = true := h
      simp only [Bool.or_eq_true, Bool.and_eq_true, decide_eq_true_eq,
        UInt32.le_iff_toNat_le] at hletter
      change 65 ≤ c.toNat ∧ c.toNat ≤ 90 ∨ 97 ≤ c.toNat ∧ c.toNat ≤ 122 at hletter
      omega
    · decide
  rw [isWordChar_of_ascii hascii]
  rcases h with h | rfl
  · simp [isAsciiWord, Char.isAlphanum, h]
  · decide

/-! ## Where placeholders begin -/

/-- What is left of a list without repeats has none. -/
theorem nodup_eraseDups {α : Type} [BEq α] [LawfulBEq α] : ∀ xs : List α, xs.eraseDups.Nodup
  | [] => .nil
  | x :: xs => by
    rw [List.eraseDups_cons]
    exact List.nodup_cons.2 ⟨by simp, nodup_eraseDups _⟩
  termination_by xs => xs.length
  decreasing_by exact Nat.lt_succ_of_le (List.length_filter_le _ _)

theorem at?_eq_some {before : Option Char} {c : Char} {cs name : List Char} :
    at? before c cs = some name ↔
      c = ':' ∧ opensAfter before = true ∧ cs.head?.any startsName = true ∧
        cs.takeWhile isWordChar = name := by
  simp only [at?, Bool.and_eq_true, beq_iff_eq]
  split <;> simp_all

/-- What a placeholder is called is a name. -/
theorem isName_of_at? {before : Option Char} {c : Char} {cs name : List Char}
    (h : at? before c cs = some name) : IsName name := by
  obtain ⟨-, -, hstarts, rfl⟩ := at?_eq_some.1 h
  refine ⟨?_, fun d hd => List.mem_takeWhile_imp hd⟩
  cases cs with
  | nil => cases hstarts
  | cons d cs =>
    have hd : startsName d = true := hstarts
    rw [List.takeWhile_cons, if_pos (isWordChar_of_startsName hd)]
    exact hd

theorem getLast?_cons_or (c : Char) (us : List Char) (before : Option Char) :
    (c :: us).getLast?.or before = us.getLast?.or (some c) := by
  rw [List.getLast?_cons]
  cases us.getLast? <;> rfl

/-- What a search finds that looks at every place of a text with the character ahead of it. -/
theorem mem_search {found : Option Char → Char → List Char → Option (List Char)}
    {search : Option Char → List Char → List (List Char)}
    (hnil : ∀ before, search before [] = [])
    (hcons : ∀ before c cs, search before (c :: cs) =
      (found before c cs).toList ++ search (some c) cs) {name : List Char} :
    ∀ {before : Option Char} {cs : List Char}, name ∈ search before cs ↔
      ∃ us c vs, cs = us ++ c :: vs ∧ found (us.getLast?.or before) c vs = some name
  | before, [] => by simp [hnil]
  | before, c :: cs => by
    rw [hcons, List.mem_append, Option.mem_toList, mem_search hnil hcons]
    constructor
    · rintro (h | ⟨us, d, vs, rfl, h⟩)
      · exact ⟨[], c, cs, rfl, h⟩
      · refine ⟨c :: us, d, vs, rfl, ?_⟩
        rwa [getLast?_cons_or]
    · rintro ⟨us, d, vs, hs, h⟩
      cases us with
      | nil => cases hs; exact .inl h
      | cons u us =>
        obtain ⟨rfl, rfl⟩ := List.cons.inj hs
        refine .inr ⟨us, d, vs, rfl, ?_⟩
        rwa [getLast?_cons_or] at h

theorem mem_occurrences {name : List Char} {before : Option Char} {cs : List Char} :
    name ∈ occurrences before cs ↔
      ∃ us c vs, cs = us ++ c :: vs ∧ at? (us.getLast?.or before) c vs = some name :=
  mem_search (fun _ => rfl) (fun _ _ _ => rfl)

/-- The placeholders of a text are the names of the places where one begins. -/
theorem mem_names {name : String} {cs : List Char} :
    name ∈ names cs ↔
      ∃ us c vs, cs = us ++ c :: vs ∧ at? us.getLast? c vs = some name.toList := by
  rw [names, List.mem_eraseDups, List.mem_map]
  constructor
  · rintro ⟨ns, hns, rfl⟩
    obtain ⟨us, c, vs, rfl, h⟩ := mem_occurrences.1 hns
    exact ⟨us, c, vs, rfl, by simpa using h⟩
  · rintro ⟨us, c, vs, rfl, h⟩
    exact ⟨name.toList, mem_occurrences.2 ⟨us, c, vs, rfl, by simpa using h⟩, by simp⟩

theorem nodup_names (cs : List Char) : (names cs).Nodup :=
  nodup_eraseDups _

end QueryBook.Placeholder
