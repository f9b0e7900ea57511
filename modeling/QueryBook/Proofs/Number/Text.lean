import QueryBook.Number.Basic
import QueryBook.Proofs.Scan

/-!
# The written form of a finite number

A finite number is written in digits, points, exponent letters and signs, and a minus sign
always has a digit behind it. So its text is quiet (`quiet_text`): inserted into code it is code,
and only a minus sign at its beginning can combine with what stands before it. Fractions and
complex numbers are not covered; the slash of a fraction could open a comment. The text of any number
is made of a few characters (`spelled_text`), among them neither blanks nor quotes nor semicolons.
-/

namespace QueryBook

open Scan

/-- An integer, or a double or decimal number that is neither infinite nor a NaN. -/
def Number.IsFinite : Number → Prop
  | .int _ => True
  | .double x => ∃ s m q evenGap, x.shape = .finite s m q evenGap
  | .decimal d => ∃ s c e, d = .finite s c e
  | .fraction .. => False
  | .complex .. => False

namespace Number

/-- A digit or a point. -/
def IsBare (c : Char) : Prop :=
  c.isDigit = true ∨ c = '.'

/-- The text of a number without its sign: quiet, and beginning with a digit or a point. -/
structure Unsigned (t : List Char) : Prop where
  quiet : Quiet t
  head : ∃ d, t.head? = some d ∧ IsBare d

theorem IsBare.ne {c d : Char} (h : IsBare c) (hd : d.isDigit = false) (hpoint : d ≠ '.') :
    c ≠ d := by
  rintro rfl
  rcases h with h | h
  · rw [h] at hd; cases hd
  · exact hpoint h

theorem quiet_of_isBare {t : List Char} (h : ∀ c ∈ t, IsBare c) : Quiet t :=
  quiet_of_forall fun c hc =>
    have hbare := h c hc
    ⟨hbare.ne (by decide) (by decide), hbare.ne (by decide) (by decide),
      hbare.ne (by decide) (by decide), hbare.ne (by decide) (by decide)⟩

theorem unsigned_of_isBare {t : List Char} (hne : t ≠ []) (h : ∀ c ∈ t, IsBare c) :
    Unsigned t := by
  refine ⟨quiet_of_isBare h, ?_⟩
  cases t with
  | nil => exact absurd rfl hne
  | cons c t => exact ⟨c, rfl, h c List.mem_cons_self⟩

theorem Unsigned.append {t u : List Char} (ht : Unsigned t) (hu : Quiet u) :
    Unsigned (t ++ u) := by
  obtain ⟨d, hd, hbare⟩ := ht.head
  exact ⟨quiet_append ht.quiet hu, d, by rw [List.head?_append, hd]; rfl, hbare⟩

/-- A minus sign before an unsigned text leaves it quiet. -/
theorem Unsigned.quiet_sign {t : List Char} (h : Unsigned t) (negative : Bool) :
    Quiet (Decimal.sign negative ++ t) := by
  cases negative with
  | false => exact h.quiet
  | true =>
    obtain ⟨d, hd, hbare⟩ := h.head
    have hdash : ∃ d, t.head? = some d ∧ d ≠ '-' := ⟨d, hd, hbare.ne (by decide) (by decide)⟩
    exact ⟨by decide, by decide, by decide, fun _ => hdash, h.quiet⟩

/-! ## Digits -/

theorem isBare_of_mem_digits {n : Nat} {c : Char} (h : c ∈ Decimal.digits n) : IsBare c :=
  .inl (Nat.isDigit_of_mem_toDigits (by decide) (by decide) h)

theorem unsigned_digits (n : Nat) : Unsigned (Decimal.digits n) :=
  unsigned_of_isBare Nat.toDigits_ne_nil fun _ => isBare_of_mem_digits

/-- Zeros before digits are digits. -/
theorem isBare_of_mem_padded {k : Nat} {ds : List Char} (h : ∀ c ∈ ds, IsBare c) {c : Char}
    (hc : c ∈ List.replicate k '0' ++ ds) : IsBare c := by
  rcases List.mem_append.1 hc with hc | hc
  · rw [(List.mem_replicate.1 hc).2]; exact .inl (by decide)
  · exact h c hc

theorem unsigned_positional {ds : List Char} (h : ∀ c ∈ ds, IsBare c) (places : Nat) :
    Unsigned (Decimal.positional ds places) := by
  unfold Decimal.positional
  split
  · refine unsigned_of_isBare (fun hnil => ?_) fun c => isBare_of_mem_padded h
    have := congrArg List.length hnil
    simp only [List.length_append, List.length_replicate, List.length_nil] at this
    omega
  · refine unsigned_of_isBare (by simp) fun c hc => ?_
    rcases List.mem_append.1 hc with hc | hc
    · exact isBare_of_mem_padded h (List.mem_of_mem_take hc)
    · rcases List.mem_cons.1 hc with rfl | hc
      · exact .inr rfl
      · exact isBare_of_mem_padded h (List.mem_of_mem_drop hc)

theorem unsigned_leading : ∀ {ds : List Char}, ds ≠ [] → (∀ c ∈ ds, IsBare c) →
    Unsigned (Decimal.leading ds)
  | [], hne, _ => absurd rfl hne
  | [d], hne, h => unsigned_of_isBare hne h
  | d :: e :: ds, _, h => by
    refine unsigned_of_isBare (by simp [Decimal.leading]) fun c hc => ?_
    rcases List.mem_cons.1 hc with rfl | hc
    · exact h c List.mem_cons_self
    · rcases List.mem_cons.1 hc with rfl | hc
      · exact .inr rfl
      · exact h c (List.mem_cons_of_mem d hc)

/-- An exponent: a letter, a sign and digits. -/
theorem quiet_exponent {letter sign : Char} {ds : List Char} (hletter : letter = 'E' ∨ letter = 'e')
    (hsign : sign = '-' ∨ sign = '+') (h : Unsigned ds) : Quiet (letter :: sign :: ds) := by
  have hsigned : Quiet (sign :: ds) := by
    rcases hsign with rfl | rfl
    · exact h.quiet_sign true
    · exact ⟨by decide, by decide, by decide, fun hc => absurd hc (by decide), h.quiet⟩
  rcases hletter with rfl | rfl <;>
    exact ⟨by decide, by decide, by decide, fun hc => absurd hc (by decide), hsigned⟩

theorem sign_eq (negative : Prop) [Decidable negative] :
    (if negative then '-' else '+') = '-' ∨ (if negative then '-' else '+') = '+' := by
  split
  · exact .inl rfl
  · exact .inr rfl

/-! ## Numbers -/

theorem unsigned_magnitude (c : Nat) (e : Int) : Unsigned (Decimal.magnitude c e) := by
  simp only [Decimal.magnitude]
  split
  · exact unsigned_positional (fun _ => isBare_of_mem_digits) _
  · exact (unsigned_leading Nat.toDigits_ne_nil fun _ => isBare_of_mem_digits).append
      (quiet_exponent (.inl rfl) (sign_eq _) (unsigned_digits _))

theorem unsigned_exponentDigits (n : Nat) : Unsigned (Double.exponentDigits n) :=
  unsigned_of_isBare (by simp [Double.exponentDigits, Decimal.digits, Nat.toDigits_ne_nil])
    fun _ => isBare_of_mem_padded fun _ => isBare_of_mem_digits

theorem unsigned_magnitudeText (c : Nat) (k : Int) : Unsigned (Double.magnitudeText c k) := by
  simp only [Double.magnitudeText]
  split
  · exact unsigned_positional (fun _ => isBare_of_mem_digits) _
  · exact (unsigned_leading Nat.toDigits_ne_nil fun _ => isBare_of_mem_digits).append
      (quiet_exponent (.inr rfl) (sign_eq _) (unsigned_exponentDigits _))

/-- A finite double is written as a finite decimal. -/
theorem toDecimal_finite {x : Double} {s : Bool} {m : Nat} {q : Int} {evenGap : Bool}
    (h : x.shape = .finite s m q evenGap) : ∃ c k, x.toDecimal = .finite s c k := by
  unfold Double.toDecimal
  rw [h]
  dsimp only
  split
  · exact ⟨_, _, rfl⟩
  · exact ⟨_, _, rfl⟩

/-- The text of a finite number is a sign, if any, and an unsigned text. -/
theorem exists_unsigned {n : Number} (h : n.IsFinite) :
    ∃ negative t, Unsigned t ∧ n.text = Decimal.sign negative ++ t := by
  cases n with
  | int n => exact ⟨_, _, unsigned_digits _, rfl⟩
  | double x =>
    obtain ⟨s, m, q, evenGap, hshape⟩ := h
    obtain ⟨c, k, hdecimal⟩ := toDecimal_finite hshape
    exact ⟨s, _, unsigned_magnitudeText c k, by rw [text, Double.text, hdecimal]⟩
  | decimal d =>
    obtain ⟨s, c, e, rfl⟩ := h
    exact ⟨s, _, unsigned_magnitude c e, rfl⟩
  | fraction => exact h.elim
  | complex => exact h.elim

theorem quiet_text {n : Number} (h : n.IsFinite) : Quiet n.text := by
  obtain ⟨negative, t, ht, heq⟩ := exists_unsigned h
  exact heq ▸ ht.quiet_sign negative

/-- A finite number is written with a minus sign, a digit or a point first. -/
theorem head?_text {n : Number} (h : n.IsFinite) :
    ∃ d, n.text.head? = some d ∧ (d = '-' ∨ IsBare d) := by
  obtain ⟨negative, t, ht, heq⟩ := exists_unsigned h
  obtain ⟨d, hd, hbare⟩ := ht.head
  rw [heq]
  cases negative with
  | false => exact ⟨d, hd, .inr hbare⟩
  | true => exact ⟨'-', rfl, .inl rfl⟩

/-! ## The characters of numbers -/

/-- The characters that numbers of any kind are written with. -/
def isMark (c : Char) : Bool :=
  c.isAlphanum || "+-./()".toList.contains c

/-- A text in the characters of numbers, and not empty. -/
structure Spelled (t : List Char) : Prop where
  ne_nil : t ≠ []
  mark : ∀ c ∈ t, isMark c = true

theorem isMark_of_isBare {c : Char} (h : IsBare c) : isMark c = true := by
  rcases h with h | rfl
  · simp [isMark, Char.isAlphanum, h]
  · decide

theorem Spelled.append {t u : List Char} (ht : Spelled t) (hu : ∀ c ∈ u, isMark c = true) :
    Spelled (t ++ u) :=
  ⟨by simp [ht.ne_nil], List.forall_mem_append.2 ⟨ht.mark, hu⟩⟩

theorem Spelled.behind {t u : List Char} (ht : ∀ c ∈ t, isMark c = true) (hu : Spelled u) :
    Spelled (t ++ u) :=
  ⟨by simp [hu.ne_nil], List.forall_mem_append.2 ⟨ht, hu.mark⟩⟩

theorem Unsigned.ne_nil {t : List Char} (h : Unsigned t) : t ≠ [] := by
  obtain ⟨d, hd, -⟩ := h.head
  rintro rfl
  cases hd

theorem isMark_of_all {t : List Char} (h : t.all isMark = true) : ∀ c ∈ t, isMark c = true :=
  List.all_eq_true.1 h

theorem isMark_sign (negative : Bool) : ∀ c ∈ Decimal.sign negative, isMark c = true := by
  cases negative <;> exact isMark_of_all (by decide)

theorem spelled_digits (n : Nat) : Spelled (Decimal.digits n) :=
  ⟨Nat.toDigits_ne_nil, fun _ hc => isMark_of_isBare (isBare_of_mem_digits hc)⟩

theorem mem_positional {ds : List Char} {places : Nat} {c : Char}
    (h : c ∈ Decimal.positional ds places) : c = '0' ∨ c = '.' ∨ c ∈ ds := by
  have hpadded : ∀ {k : Nat}, c ∈ List.replicate k '0' ++ ds → c = '0' ∨ c = '.' ∨ c ∈ ds := by
    intro k hc
    rcases List.mem_append.1 hc with hc | hc
    · exact .inl (List.mem_replicate.1 hc).2
    · exact .inr (.inr hc)
  unfold Decimal.positional at h
  split at h
  · exact hpadded h
  · rcases List.mem_append.1 h with h | h
    · exact hpadded (List.mem_of_mem_take h)
    · rcases List.mem_cons.1 h with rfl | h
      · exact .inr (.inl rfl)
      · exact hpadded (List.mem_of_mem_drop h)

theorem mem_leading {c : Char} : ∀ {ds : List Char}, c ∈ Decimal.leading ds → c = '.' ∨ c ∈ ds
  | [], h => .inr h
  | [_], h => .inr h
  | d :: e :: ds, h => by
    rcases List.mem_cons.1 h with rfl | h
    · exact .inr List.mem_cons_self
    · rcases List.mem_cons.1 h with rfl | h
      · exact .inl rfl
      · exact .inr (List.mem_cons_of_mem d h)

theorem spelled_positional (n places : Nat) : Spelled (Decimal.positional (Decimal.digits n) places) := by
  refine ⟨(unsigned_positional (fun _ => isBare_of_mem_digits) places).ne_nil, fun c hc => ?_⟩
  rcases mem_positional hc with rfl | rfl | hc
  · decide
  · decide
  · exact (spelled_digits n).mark c hc

theorem spelled_leading (n : Nat) : Spelled (Decimal.leading (Decimal.digits n)) := by
  refine ⟨(unsigned_leading Nat.toDigits_ne_nil fun _ => isBare_of_mem_digits).ne_nil,
    fun c hc => ?_⟩
  rcases mem_leading hc with rfl | hc
  · decide
  · exact (spelled_digits n).mark c hc

/-- An exponent is written with a letter, a sign and digits. -/
theorem isMark_exponent {letter sign : Char} {ds : List Char}
    (hletter : letter = 'E' ∨ letter = 'e') (hsign : sign = '-' ∨ sign = '+')
    (hds : ∀ c ∈ ds, isMark c = true) : ∀ c ∈ letter :: sign :: ds, isMark c = true := by
  refine List.forall_mem_cons.2 ⟨?_, List.forall_mem_cons.2 ⟨?_, hds⟩⟩
  · rcases hletter with rfl | rfl <;> decide
  · rcases hsign with rfl | rfl <;> decide

theorem spelled_magnitude (c : Nat) (e : Int) : Spelled (Decimal.magnitude c e) := by
  simp only [Decimal.magnitude]
  split
  · exact spelled_positional c _
  · exact (spelled_leading c).append
      (isMark_exponent (.inl rfl) (sign_eq _) (spelled_digits _).mark)

theorem spelled_magnitudeText (c : Nat) (k : Int) : Spelled (Double.magnitudeText c k) := by
  have hexponent : ∀ n, ∀ d ∈ Double.exponentDigits n, isMark d = true := by
    intro n d hd
    rcases List.mem_append.1 hd with hd | hd
    · rw [(List.mem_replicate.1 hd).2]
      decide
    · exact (spelled_digits n).mark d hd
  simp only [Double.magnitudeText]
  split
  · exact spelled_positional c _
  · exact (spelled_leading c).append (isMark_exponent (.inr rfl) (sign_eq _) (hexponent _))

theorem spelled_intText (n : Int) : Spelled (intText n) :=
  .behind (isMark_sign _) (spelled_digits _)

theorem spelled_double (x : Double) : Spelled x.text := by
  rw [Double.text]
  split
  · exact ⟨by decide, isMark_of_all (by decide)⟩
  · exact .behind (isMark_sign _) ⟨by decide, isMark_of_all (by decide)⟩
  · exact .behind (isMark_sign _) (spelled_magnitudeText _ _)

theorem spelled_decimal (d : Decimal) : Spelled d.text := by
  cases d with
  | finite s c e => exact .behind (isMark_sign s) (spelled_magnitude c e)
  | infinite s => exact .behind (isMark_sign s) ⟨by decide, isMark_of_all (by decide)⟩
  | nan s signaling payload =>
    have hword : Spelled (if signaling then "sNaN" else "NaN").toList := by
      cases signaling <;> exact ⟨by decide, isMark_of_all (by decide)⟩
    refine (Spelled.behind (isMark_sign s) hword).append fun c hc => ?_
    split at hc
    · cases hc
    · exact (spelled_digits payload).mark c hc

theorem isMark_bareText (x : Double) : ∀ c ∈ x.bareText, isMark c = true := by
  intro c hc
  refine (spelled_double x).mark c ?_
  simp only [Double.bareText] at hc
  split at hc
  · exact List.mem_of_mem_take hc
  · exact hc

/-- Every number is written, in the characters of numbers. -/
theorem spelled_text (n : Number) : Spelled n.text := by
  cases n with
  | int n => exact spelled_intText n
  | double x => exact spelled_double x
  | decimal d => exact spelled_decimal d
  | fraction n d =>
    rw [text]
    split
    · exact spelled_intText n
    · exact (spelled_intText n).append (List.forall_mem_cons.2 ⟨by decide, (spelled_digits d).mark⟩)
  | complex re im =>
    rw [text, complexText]
    split
    · exact .behind (isMark_bareText im) ⟨by decide, isMark_of_all (by decide)⟩
    · have hsign : ∀ c ∈ (if hasSign im then [] else ['+']), isMark c = true := by
        split <;> exact isMark_of_all (by decide)
      refine .behind ?_ ⟨by decide, isMark_of_all (by decide)⟩
      simp only [List.cons_append, List.forall_mem_cons, List.forall_mem_append]
      exact ⟨by decide, ⟨isMark_bareText re, hsign⟩, isMark_bareText im⟩

end Number

end QueryBook
