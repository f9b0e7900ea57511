import Mathlib.Algebra.Order.Field.Rat
import Mathlib.Algebra.Order.Field.Power
import Mathlib.Tactic.FieldSimp
import Mathlib.Tactic.GCongr
import Mathlib.Tactic.Linarith
import Mathlib.Tactic.NormNum
import Mathlib.Tactic.Ring
import QueryBook.Number.Double

/-!
# Rounding to a precision

A magnitude keeps its number when it is rounded if and only if some form of it fits into the
precision (`Decimal.roundMagnitude_exact_iff`): few enough digits, none of them too fine. The decimal
that a double is written as always fits into the working precision (`Double.fits_toDecimal`), since
the search for it takes the coarsest grid with a point near the double, and a grid with far more
points than doubles is not the coarsest.
-/

namespace QueryBook

namespace Decimal

/-- The finest exponent of a number of the precision. -/
def Precision.finest (p : Precision) : ℤ :=
  p.least - p.digits + 1

/-- Whether the number has a form with no more digits than the precision and none finer than its
finest exponent. -/
def Fits (p : Precision) (c : ℕ) (e : ℤ) : Prop :=
  ∃ (c' : ℕ) (e' : ℤ), c' < 10 ^ p.digits ∧ p.finest ≤ e' ∧ (c : ℚ) * 10 ^ e = c' * 10 ^ e'

/-- The place that the last digit of a rounded number has at least. -/
def lastPlace (p : Precision) (c : ℕ) (e : ℤ) : ℤ :=
  max (e + (digits c).length - p.digits) p.finest

/-! ## Powers and digits -/

theorem power_pos {b : ℕ} (hb : 0 < b) (e : ℤ) : 0 < power b e :=
  Nat.pow_pos hb

theorem power_ten_eq (e : ℤ) : power 10 e = 10 ^ e.toNat := rfl

/-- The two powers of opposite exponents are the terms of a fraction. -/
theorem power_div_power {b : ℕ} (hb : 0 < b) (e : ℤ) :
    (power b e : ℚ) = (b : ℚ) ^ e * power b (-e) := by
  have hb : (b : ℚ) ≠ 0 := by exact_mod_cast hb.ne'
  have hcast (e : ℤ) : (power b e : ℚ) = (b : ℚ) ^ (e.toNat : ℤ) := by
    rw [zpow_natCast]
    exact Nat.cast_pow b e.toNat
  rw [hcast, hcast, ← zpow_add₀ hb]
  congr 1
  omega

theorem power_eq_zpow {e : ℤ} (he : 0 ≤ e) : (power 10 e : ℚ) = 10 ^ e := by
  have hone : power 10 (-e) = 1 := by
    rw [power_ten_eq, show (-e).toNat = 0 by omega, pow_zero]
  have h := power_div_power (b := 10) (by decide) e
  rw [hone] at h
  simpa using h

theorem lt_pow_length (c : ℕ) : c < 10 ^ (digits c).length :=
  (Nat.length_toDigits_le_iff (by decide) Nat.length_toDigits_pos).1 le_rfl

theorem pow_length_le {c : ℕ} (hc : c ≠ 0) : 10 ^ ((digits c).length - 1) ≤ c := by
  by_contra hlt
  rw [not_le] at hlt
  by_cases hone : (digits c).length = 1
  · rw [hone] at hlt
    omega
  · have hpos : 0 < (digits c).length := Nat.length_toDigits_pos
    have hshort : (digits c).length ≤ (digits c).length - 1 :=
      (Nat.length_toDigits_le_iff (by decide) (by omega)).2 hlt
    omega

/-! ## Division with rounding -/

theorem roundDiv_le (n d : ℕ) : roundDiv n d ≤ n / d + 1 := by
  unfold roundDiv
  dsimp only
  split <;> omega

theorem roundDiv_of_dvd {n d : ℕ} (hd : 0 < d) (h : d ∣ n) : roundDiv n d = n / d := by
  rw [roundDiv, Nat.mod_eq_zero_of_dvd h, if_pos (.inl (by omega))]

/-! ## Rounding -/

variable {p : Precision} {c : ℕ} {e : ℤ}

/-- What is kept of a coefficient has no more digits than the precision. -/
theorem div_power_lt (he : e < lastPlace p c e) :
    c / power 10 (lastPlace p c e - e) < 10 ^ p.digits := by
  refine Nat.div_lt_of_lt_mul ?_
  calc c < 10 ^ (digits c).length := lt_pow_length c
    _ ≤ 10 ^ ((lastPlace p c e - e).toNat + p.digits) :=
      Nat.pow_le_pow_right (by decide) (by rw [lastPlace] at *; omega)
    _ = power 10 (lastPlace p c e - e) * 10 ^ p.digits := pow_add ..

/-- A number that fits has no digit behind the last place. -/
theorem Fits.dvd (h : Fits p c e) (hc : c ≠ 0) (he : e < lastPlace p c e) :
    power 10 (lastPlace p c e - e) ∣ c := by
  obtain ⟨c', e', hlt, hfinest, heq⟩ := h
  have hten : (10 : ℚ) ≠ 0 := by norm_num
  have hplace : lastPlace p c e ≤ e' := by
    have hlength : (10 : ℚ) ^ (((digits c).length - 1 : ℕ) + e : ℤ) < 10 ^ (p.digits + e' : ℤ) := by
      calc (10 : ℚ) ^ (((digits c).length - 1 : ℕ) + e : ℤ)
          = (10 ^ ((digits c).length - 1) : ℕ) * 10 ^ e := by
            rw [zpow_add₀ hten, zpow_natCast, Nat.cast_pow]
            rfl
        _ ≤ c * 10 ^ e := by
            gcongr
            exact pow_length_le hc
        _ = c' * 10 ^ e' := heq
        _ < (10 ^ p.digits : ℕ) * 10 ^ e' := by gcongr
        _ = 10 ^ (p.digits + e' : ℤ) := by
            rw [zpow_add₀ hten, zpow_natCast, Nat.cast_pow]
            rfl
    have := (zpow_lt_zpow_iff_right₀ (by norm_num : (1 : ℚ) < 10)).1 hlength
    rw [lastPlace]
    omega
  refine ⟨c' * power 10 (e' - lastPlace p c e), ?_⟩
  have hcast : (c : ℚ) = (power 10 (lastPlace p c e - e) : ℚ) *
      (c' * power 10 (e' - lastPlace p c e)) := by
    rw [power_eq_zpow (by omega), power_eq_zpow (by omega), mul_left_comm, ← zpow_add₀ hten,
      show lastPlace p c e - e + (e' - lastPlace p c e) = e' - e by omega, zpow_sub₀ hten,
      mul_div_assoc', ← heq]
    field_simp
  exact_mod_cast hcast

/-- A magnitude as it is kept or cut at its last place, or once more where rounding up has added a
digit. -/
def rounded (p : Precision) (c : ℕ) (e : ℤ) : ℕ × ℤ :=
  if lastPlace p c e ≤ e then (c, e)
  else if (digits (roundDiv c (power 10 (lastPlace p c e - e)))).length ≤ p.digits then
    (roundDiv c (power 10 (lastPlace p c e - e)), lastPlace p c e)
  else (roundDiv c (power 10 (lastPlace p c e - e)) / 10, lastPlace p c e + 1)

theorem eq_rounded {r : ℕ × ℤ} (h : roundMagnitude p c e = some r) : r = rounded p c e := by
  have hround : roundMagnitude p c e =
      if adjusted (rounded p c e).1 (rounded p c e).2 ≤ p.greatest then some (rounded p c e)
      else none := rfl
  rw [hround] at h
  by_cases hrange : adjusted (rounded p c e).1 (rounded p c e).2 ≤ p.greatest
  · rw [if_pos hrange] at h
    exact (Option.some.inj h).symm
  · rw [if_neg hrange] at h
    cases h

/-- What a magnitude is rounded to fits, and it is the same number if that fits as well. -/
theorem roundMagnitude_spec {r : ℕ × ℤ} (hp : 0 < p.digits) (hc : c ≠ 0)
    (h : roundMagnitude p c e = some r) :
    r.1 < 10 ^ p.digits ∧ p.finest ≤ r.2 ∧ (Fits p c e → (r.1 : ℚ) * 10 ^ r.2 = c * 10 ^ e) := by
  have hfinest : p.finest ≤ lastPlace p c e := le_max_right _ _
  rw [eq_rounded h, rounded]
  by_cases hkeeps : lastPlace p c e ≤ e
  · rw [if_pos hkeeps]
    have hlength : (digits c).length ≤ p.digits := by
      rw [lastPlace] at hkeeps
      omega
    exact ⟨(lt_pow_length c).trans_le (Nat.pow_le_pow_right (by decide) hlength),
      hfinest.trans hkeeps, fun _ => rfl⟩
  · rw [if_neg hkeeps]
    have he := not_le.1 hkeeps
    have hlt := div_power_lt he
    set d := power 10 (lastPlace p c e - e) with hd
    have hdpos : 0 < d := power_pos (by decide) _
    split
    case isTrue hlength =>
      refine ⟨(Nat.length_toDigits_le_iff (by decide) hp).1 hlength, hfinest, fun hfits => ?_⟩
      have hdvd := hfits.dvd hc he
      have hscale : (10 : ℚ) ^ lastPlace p c e = d * 10 ^ e := by
        rw [hd, power_eq_zpow (by omega), ← zpow_add₀ (by norm_num), sub_add_cancel]
      rw [hscale, roundDiv_of_dvd hdpos hdvd, ← mul_assoc, ← Nat.cast_mul,
        Nat.div_mul_cancel hdvd]
    case isFalse hlength =>
      have hcut : roundDiv c d ≤ 10 ^ p.digits := (roundDiv_le c d).trans hlt
      refine ⟨?_, by omega, fun hfits => absurd ?_ hlength⟩
      · have hpow : 0 < 10 ^ p.digits := Nat.pow_pos (by decide)
        omega
      · rw [roundDiv_of_dvd hdpos (hfits.dvd hc he)]
        exact (Nat.length_toDigits_le_iff (by decide) hp).2 hlt

/-- Rounding keeps exactly the numbers that fit into the precision. -/
theorem roundMagnitude_exact_iff {r : ℕ × ℤ} (hp : 0 < p.digits) (hc : c ≠ 0)
    (h : roundMagnitude p c e = some r) :
    (r.1 : ℚ) * 10 ^ r.2 = c * 10 ^ e ↔ Fits p c e := by
  obtain ⟨hlt, hfinest, hexact⟩ := roundMagnitude_spec hp hc h
  exact ⟨fun heq => ⟨r.1, r.2, hlt, hfinest, heq.symm⟩, hexact⟩

end Decimal

namespace Double

open Decimal (power power_pos power_div_power Fits working)

/-! ## Comparison on grids -/

section

variable {a c : ℕ} {p k : ℤ}

/-- Both sides of a comparison, multiplied by the same positive number. -/
theorem scaled_eq (a : ℕ) (p : ℤ) (c : ℕ) (k : ℤ) :
    ((a * power 2 p * power 10 (-k) : ℕ) : ℚ) =
        (a * 2 ^ p) * (power 2 (-p) * power 10 (-k)) ∧
      ((c * power 10 k * power 2 (-p) : ℕ) : ℚ) =
        (c * 10 ^ k) * (power 2 (-p) * power 10 (-k)) := by
  have htwo := power_div_power (b := 2) (by decide) p
  have hten := power_div_power (b := 10) (by decide) k
  push_cast at htwo hten ⊢
  constructor
  · rw [htwo]; ring
  · rw [hten]; ring

theorem scale_pos (p k : ℤ) : (0 : ℚ) < power 2 (-p) * power 10 (-k) := by
  have htwo : 0 < power 2 (-p) := power_pos (by decide) _
  have hten : 0 < power 10 (-k) := power_pos (by decide) _
  positivity

theorem compareScaled_lt_iff :
    compareScaled a p c k = .lt ↔ (a : ℚ) * 2 ^ p < c * 10 ^ k := by
  obtain ⟨hleft, hright⟩ := scaled_eq a p c k
  rw [compareScaled, compare_lt_iff_lt, ← Nat.cast_lt (α := ℚ), hleft, hright,
    mul_lt_mul_iff_left₀ (scale_pos p k)]

theorem compareScaled_gt_iff :
    compareScaled a p c k = .gt ↔ (c : ℚ) * 10 ^ k < a * 2 ^ p := by
  obtain ⟨hleft, hright⟩ := scaled_eq a p c k
  rw [compareScaled, compare_gt_iff_gt, ← Nat.cast_lt (α := ℚ), hleft, hright,
    mul_lt_mul_iff_left₀ (scale_pos p k)]

/-- A number lies between two neighbours on the grid. -/
theorem floorScaled_bounds (a : ℕ) (p k : ℤ) :
    (floorScaled a p k : ℚ) * 10 ^ k ≤ a * 2 ^ p ∧
      (a : ℚ) * 2 ^ p < (floorScaled a p k + 1 : ℕ) * 10 ^ k := by
  have hpos : 0 < power 10 k * power 2 (-p) :=
    Nat.mul_pos (power_pos (by decide) _) (power_pos (by decide) _)
  set f := floorScaled a p k with hf
  have hlow : f * (power 10 k * power 2 (-p)) ≤ a * power 2 p * power 10 (-k) :=
    Nat.div_mul_le_self _ _
  have hhigh : a * power 2 p * power 10 (-k) < (f + 1) * (power 10 k * power 2 (-p)) := by
    rw [mul_comm (f + 1)]
    exact Nat.lt_mul_div_succ _ hpos
  rw [← mul_assoc, ← Nat.cast_le (α := ℚ), (scaled_eq a p f k).1, (scaled_eq a p f k).2,
    mul_le_mul_iff_left₀ (scale_pos p k)] at hlow
  rw [← mul_assoc, ← Nat.cast_lt (α := ℚ), (scaled_eq a p (f + 1) k).1,
    (scaled_eq a p (f + 1) k).2, mul_lt_mul_iff_left₀ (scale_pos p k)] at hhigh
  exact ⟨hlow, hhigh⟩

end

/-! ## The search for the shortest form -/

section

variable {m c : ℕ} {q k : ℤ} {evenGap : Bool}

/-- A point found on a grid is at most the upper neighbour of the double. -/
theorem onGrid?_le (h : onGrid? m q evenGap k = some c) : c ≤ floorScaled m q k + 1 := by
  unfold onGrid? at h
  dsimp only at h
  split at h
  · split at h <;> cases h
    · omega
    · omega
    · split <;> omega
  · cases h
    omega
  · cases h
    omega
  · cases h

/-- A grid that is finer than half of the gap between doubles has a point near each of them. -/
theorem onGrid?_ne_none (h : (10 : ℚ) ^ k < 2 ^ (q - 1)) : onGrid? m q evenGap k ≠ none := by
  obtain ⟨hlow, hhigh⟩ := floorScaled_bounds m q k
  set f := floorScaled m q k with hf
  have hquarter : (4 : ℚ) * 2 ^ (q - 2) = 2 ^ q := by
    rw [zpow_sub₀ (by norm_num)]
    ring
  have hhalf : (2 : ℚ) * 2 ^ (q - 2) = 2 ^ (q - 1) := by
    rw [zpow_sub₀ (by norm_num), zpow_sub₀ (by norm_num)]
    ring
  have habove (low : ℕ) (hle : low ≤ 4 * m) : compareScaled low (q - 2) (f + 1) k = .lt := by
    rw [compareScaled_lt_iff]
    calc (low : ℚ) * 2 ^ (q - 2) ≤ (4 * m : ℕ) * 2 ^ (q - 2) := by gcongr
      _ = m * 2 ^ q := by rw [← hquarter]; push_cast; ring
      _ < _ := hhigh
  have hbelow : compareScaled (4 * m + 2) (q - 2) (f + 1) k = .gt := by
    rw [compareScaled_gt_iff]
    calc ((f + 1 : ℕ) : ℚ) * 10 ^ k = f * 10 ^ k + 10 ^ k := by push_cast; ring
      _ < m * 2 ^ q + 2 ^ (q - 1) := by linarith
      _ = (4 * m + 2 : ℕ) * 2 ^ (q - 2) := by rw [← hquarter, ← hhalf]; push_cast; ring
  have hupper : roundsTo m q evenGap (f + 1) k = true := by
    rw [roundsTo, hbelow, habove _ (by split <;> omega)]
    rfl
  unfold onGrid?
  simp only [← hf, hupper]
  split
  · split <;> simp
  · simp_all
  · simp
  · simp_all

/-- The bounds of the mantissa and the exponent of a double. -/
theorem shape_bounds {x : Double} {s : Bool} (h : x.shape = .finite s m q evenGap) :
    m < 2 ^ 53 ∧ q ≤ 971 := by
  unfold shape at h
  dsimp only at h
  split at h
  · split at h <;> cases h
  · have hfraction := Nat.mod_lt x.bits.toNat (by decide : 0 < leadingBit)
    have hbiased := Nat.mod_lt (x.bits.toNat / leadingBit) (by decide : 0 < 2048)
    have hleading : leadingBit = 2 ^ 52 := by decide
    split at h <;> cases h
    · exact ⟨by omega, by decide⟩
    · exact ⟨by omega, by omega⟩

theorem mem_grids {k : ℤ} : k ∈ grids ↔ -324 ≤ k ∧ k ≤ 309 := by
  rw [grids, List.mem_map]
  constructor
  · rintro ⟨i, hi, rfl⟩
    rw [List.mem_range] at hi
    omega
  · rintro ⟨hlow, hhigh⟩
    exact ⟨(309 - k).toNat, by rw [List.mem_range]; omega, by omega⟩

/-- The grids are searched from coarse to fine. -/
theorem pairwise_grids : grids.Pairwise (· > ·) := by
  rw [grids, List.pairwise_map]
  exact List.pairwise_lt_range.imp fun h => by omega

/-- The grid of the shortest form is the coarsest one with a point near the double. -/
theorem shortest_spec (h : shortest m q evenGap = (c, k)) (hc : c ≠ 0) :
    onGrid? m q evenGap k = some c ∧ k ∈ grids ∧
      ∀ k' ∈ grids, k < k' → onGrid? m q evenGap k' = none := by
  unfold shortest at h
  split at h
  · cases h
    exact absurd rfl hc
  · cases hfound : grids.findSome? fun k => (onGrid? m q evenGap k).map (·, k) with
    | none =>
      rw [hfound] at h
      cases h
      exact absurd rfl hc
    | some r =>
      rw [hfound, Option.getD_some] at h
      subst h
      obtain ⟨before, k', behind, hgrids, hk, hnone⟩ := List.findSome?_eq_some_iff.1 hfound
      obtain ⟨c', hc', heq⟩ := Option.map_eq_some_iff.1 hk
      obtain ⟨rfl, rfl⟩ := Prod.mk.inj heq
      refine ⟨hc', hgrids ▸ by simp, fun k' hk' hlt => ?_⟩
      have hsorted := hgrids ▸ pairwise_grids
      rw [hgrids, List.mem_append, List.mem_cons] at hk'
      rcases hk' with hbefore | rfl | hbehind
      · simpa using hnone k' hbefore
      · omega
      · have := List.rel_of_pairwise_cons (List.pairwise_append.1 hsorted).2.1 hbehind
        omega

/-- The shortest form of a double has at most twenty-eight digits. -/
theorem shortest_lt (hm : m < 2 ^ 53) (hq : q ≤ 971) (h : shortest m q evenGap = (c, k)) :
    c < 10 ^ 28 := by
  by_contra hlarge
  obtain ⟨hgrid, hk, hcoarser⟩ := shortest_spec h (by omega)
  have hle := onGrid?_le hgrid
  have hfloor : (10 : ℚ) ^ 27 ≤ floorScaled m q k := by
    exact_mod_cast (by omega : 10 ^ 27 ≤ floorScaled m q k)
  have hsize : (10 : ℚ) ^ 27 * 10 ^ k < 10 ^ 16 * 2 ^ q := by
    calc (10 : ℚ) ^ 27 * 10 ^ k ≤ floorScaled m q k * 10 ^ k := by gcongr
      _ ≤ m * 2 ^ q := (floorScaled_bounds m q k).1
      _ < 2 ^ 53 * 2 ^ q := by gcongr; exact_mod_cast hm
      _ ≤ 10 ^ 16 * 2 ^ q := by gcongr; norm_num
  have hcoarse : (10 : ℚ) ^ (k + 1) < 2 ^ (q - 1) := by
    rw [zpow_add₀ (by norm_num), zpow_sub₀ (by norm_num), zpow_one, zpow_one]
    have htwo : (0 : ℚ) < 2 ^ q := by positivity
    have hten : (0 : ℚ) < 10 ^ k := by positivity
    linarith
  have hnext : k + 1 ∈ grids := by
    rw [mem_grids] at hk ⊢
    refine ⟨by omega, ?_⟩
    by_contra htop
    obtain rfl : k = 309 := by omega
    have hmost : (2 : ℚ) ^ (q - 1) ≤ 2 ^ (970 : ℤ) := zpow_le_zpow_right₀ (by norm_num) (by omega)
    have hsmall : (2 : ℚ) ^ (970 : ℤ) ≤ 10 ^ (309 + 1 : ℤ) := by
      calc (2 : ℚ) ^ (970 : ℤ) = (2 ^ 97) ^ 10 := by rw [← pow_mul]; rfl
        _ ≤ (10 ^ 31) ^ 10 := by gcongr; norm_num
        _ = 10 ^ (309 + 1 : ℤ) := by rw [← pow_mul]; rfl
    exact absurd (hcoarse.trans_le hmost) hsmall.not_gt
  exact onGrid?_ne_none hcoarse (hcoarser _ hnext (by omega))

theorem shortest_finest (h : shortest m q evenGap = (c, k)) (hc : c ≠ 0) : -324 ≤ k :=
  (mem_grids.1 (shortest_spec h hc).2.1).1

end

/-- The decimal that a double is written as fits into the working precision. -/
theorem fits_toDecimal {x : Double} {s : Bool} {c : ℕ} {k : ℤ} (h : x.toDecimal = .finite s c k) :
    Fits working c k := by
  unfold toDecimal at h
  cases hshape : x.shape with
  | nan => rw [hshape] at h; cases h
  | infinite => rw [hshape] at h; cases h
  | finite s' m q evenGap =>
    obtain ⟨hm, hq⟩ := shape_bounds hshape
    obtain ⟨⟨c₀, k₀⟩, hshortest⟩ : ∃ r, shortest m q evenGap = r := ⟨_, rfl⟩
    have hlt := shortest_lt hm hq hshortest
    have hfits : Fits working c₀ k₀ := by
      by_cases hzero : c₀ = 0
      · exact ⟨0, 0, by decide, by decide, by simp [hzero]⟩
      · refine ⟨c₀, k₀, hlt, ?_, rfl⟩
        have hfinest : working.finest = -1000026 := by decide
        have := shortest_finest hshortest hzero
        omega
    rw [hshape] at h
    simp only [hshortest] at h
    split at h
    case isTrue hwhole =>
      cases h
      simp only [Bool.and_eq_true, decide_eq_true_eq] at hwhole
      obtain ⟨c', e', hc', he', heq⟩ := hfits
      refine ⟨c', e', hc', he', ?_⟩
      rw [← heq, Nat.cast_mul, Decimal.power_eq_zpow (by omega), mul_assoc,
        ← zpow_add₀ (by norm_num), add_neg_cancel_right]
    case isFalse =>
      cases h
      exact hfits

end Double

end QueryBook
