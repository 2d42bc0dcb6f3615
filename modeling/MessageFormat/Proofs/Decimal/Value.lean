import Mathlib.Algebra.Order.Field.Power
import Mathlib.Algebra.Order.Ring.Rat
import Mathlib.Tactic.Linarith
import Mathlib.Tactic.Positivity
import Mathlib.Tactic.Ring
import MessageFormat.Decimal.Basic

/-!
The values of decimals. The order of decimals, which is computed without aligning coefficients of different
size, is the order of their values.
-/

set_option autoImplicit false

namespace MessageFormat.Decimal

open Text

/-- The magnitude as a rational number. -/
def size (d : Decimal) : ℚ := d.coefficient * 10 ^ d.exponent

def value (d : Decimal) : ℚ := if d.negative then -d.size else d.size

theorem value_of_positive {d : Decimal} (h : d.negative = false) : d.value = d.size := if_neg (by simp [h])

theorem size_ofNat (n : Nat) : (ofNat n).size = n := by simp [size, ofNat]

theorem value_ofNat (n : Nat) : (ofNat n).value = n := size_ofNat n

theorem value_one : one.value = 1 := (value_ofNat 1).trans Nat.cast_one

theorem size_nonneg (d : Decimal) : 0 ≤ d.size := by
  unfold size
  positivity

theorem isZero_iff {d : Decimal} : d.isZero = true ↔ d.coefficient = 0 := by simp [isZero]

theorem size_pos {d : Decimal} (h : d.isZero = false) : 0 < d.size := by
  have hc : d.coefficient ≠ 0 := by simpa [isZero] using h
  have hc' : (0 : ℚ) < d.coefficient := by exact_mod_cast Nat.pos_of_ne_zero hc
  unfold size
  positivity

theorem coefficient_lt (d : Decimal) : d.coefficient < 10 ^ d.digitCount :=
  (Nat.length_toDigits_le_iff (by decide) Nat.length_toDigits_pos).mp le_rfl

theorem le_coefficient {d : Decimal} (h : d.isZero = false) :
    10 ^ (d.digitCount - 1) ≤ d.coefficient := by
  have hc : d.coefficient ≠ 0 := by simpa [isZero] using h
  have hpos : 0 < d.digitCount := Nat.length_toDigits_pos
  by_cases h1 : d.digitCount = 1
  · rw [h1]
    exact Nat.pos_of_ne_zero hc
  · refine Nat.le_of_not_lt fun hlt => ?_
    have hle := (Nat.length_toDigits_le_iff (b := 10) (by decide) (by omega)).mpr hlt
    have : d.digitCount ≤ d.digitCount - 1 := hle
    omega

/-- The adjusted exponent is that of the leading digit. -/
theorem size_bounds {d : Decimal} (h : d.isZero = false) :
    10 ^ d.adjusted ≤ d.size ∧ d.size < 10 ^ (d.adjusted + 1) := by
  have hpos : 0 < d.digitCount := Nat.length_toDigits_pos
  have hten : (10 : ℚ) ≠ 0 := by norm_num
  constructor
  · have hle : (10 : ℚ) ^ (d.digitCount - 1) ≤ d.coefficient := by exact_mod_cast le_coefficient h
    have he : d.adjusted = ((d.digitCount - 1 : ℕ) : ℤ) + d.exponent := by
      unfold adjusted
      omega
    rw [he, zpow_add₀ hten, zpow_natCast]
    exact mul_le_mul_of_nonneg_right hle (by positivity)
  · have hlt : (d.coefficient : ℚ) < 10 ^ d.digitCount := by exact_mod_cast d.coefficient_lt
    have he : d.adjusted + 1 = (d.digitCount : ℤ) + d.exponent := by
      unfold adjusted
      omega
    rw [he, zpow_add₀ hten, zpow_natCast]
    exact mul_lt_mul_of_pos_right hlt (by positivity)

theorem compare_scaled (m n : ℕ) {k : ℚ} (hk : 0 < k) :
    compare m n = compare (m * k) (n * k) := by
  rcases lt_trichotomy m n with h | rfl | h
  · have hq : (m : ℚ) * k < n * k := mul_lt_mul_of_pos_right (by exact_mod_cast h) hk
    rw [compare_lt_iff_lt.mpr h, compare_lt_iff_lt.mpr hq]
  · rw [compare_eq_iff_eq.mpr rfl, compare_eq_iff_eq.mpr rfl]
  · have hq : (n : ℚ) * k < m * k := mul_lt_mul_of_pos_right (by exact_mod_cast h) hk
    rw [compare_gt_iff_gt.mpr h, compare_gt_iff_gt.mpr hq]

theorem size_lt_of_adjusted {a b : Decimal} (ha : a.isZero = false) (hb : b.isZero = false)
    (h : a.adjusted < b.adjusted) : a.size < b.size := by
  have hmid : (10 : ℚ) ^ (a.adjusted + 1) ≤ 10 ^ b.adjusted :=
    zpow_le_zpow_right₀ (by norm_num) (by omega)
  exact (size_bounds ha).2.trans_le (hmid.trans (size_bounds hb).1)

theorem size_aligned (d : Decimal) {low : ℤ} (h : low ≤ d.exponent) :
    ((d.coefficient * Nat.pow 10 (d.exponent - low).toNat : ℕ) : ℚ) * 10 ^ low = d.size := by
  have he : d.exponent = ((d.exponent - low).toNat : ℤ) + low := by omega
  unfold size
  conv_rhs => rw [he, zpow_add₀ (by norm_num : (10 : ℚ) ≠ 0), zpow_natCast]
  rw [Nat.pow_eq]
  push_cast
  ring

theorem compareMagnitude_eq (a b : Decimal) : a.compareMagnitude b = compare a.size b.size := by
  unfold compareMagnitude
  split
  · rename_i hz
    -- a zero has the same size under any exponent
    cases ha : a.isZero with
    | true =>
      have hsize : a.size = a.coefficient * 10 ^ b.exponent := by simp [size, isZero_iff.mp ha]
      rw [hsize]
      exact compare_scaled _ _ (by positivity)
    | false =>
      have hb : b.isZero = true := by simpa [ha] using hz
      have hsize : b.size = b.coefficient * 10 ^ a.exponent := by simp [size, isZero_iff.mp hb]
      rw [hsize]
      exact compare_scaled _ _ (by positivity)
  · rename_i hz
    obtain ⟨ha, hb⟩ : a.isZero = false ∧ b.isZero = false := by simpa using hz
    split
    · rename_i hne
      rcases lt_or_gt_of_ne hne with h | h
      · rw [compare_lt_iff_lt.mpr h, compare_lt_iff_lt.mpr (size_lt_of_adjusted ha hb h)]
      · rw [compare_gt_iff_gt.mpr h, compare_gt_iff_gt.mpr (size_lt_of_adjusted hb ha h)]
    · dsimp only
      rw [compare_scaled _ _ (by positivity : (0 : ℚ) < 10 ^ min a.exponent b.exponent),
        size_aligned a (min_le_left _ _), size_aligned b (min_le_right _ _)]

theorem value_of_isNegative {d : Decimal} (h : d.isNegative = true) :
    d.value = -d.size ∧ d.value < 0 := by
  obtain ⟨hn, hz⟩ : d.negative = true ∧ d.isZero = false := by simpa [isNegative] using h
  have hv : d.value = -d.size := by simp [value, hn]
  exact ⟨hv, by linarith [size_pos hz]⟩

/-- A zero has no sign. -/
theorem value_of_not_isNegative {d : Decimal} (h : d.isNegative = false) :
    d.value = d.size ∧ 0 ≤ d.value := by
  have hv : d.value = d.size := by
    cases hn : d.negative with
    | false => simp [value, hn]
    | true =>
      have hz : d.isZero = true := by simpa [isNegative, hn] using h
      simp [value, size, isZero_iff.mp hz]
  exact ⟨hv, hv ▸ d.size_nonneg⟩

theorem compare_value (a b : Decimal) : a.compare b = compare a.value b.value := by
  unfold Decimal.compare
  cases ha : a.isNegative with
  | true =>
    obtain ⟨hva, hna⟩ := value_of_isNegative ha
    cases hb : b.isNegative with
    | true =>
      obtain ⟨hvb, -⟩ := value_of_isNegative hb
      rw [hva, hvb, show b.compareMagnitude a = _ from compareMagnitude_eq b a]
      rcases lt_trichotomy a.size b.size with h | h | h
      · rw [compare_gt_iff_gt.mpr h, compare_gt_iff_gt.mpr (neg_lt_neg h)]
      · rw [compare_eq_iff_eq.mpr h.symm, compare_eq_iff_eq.mpr (by rw [h])]
      · rw [compare_lt_iff_lt.mpr h, compare_lt_iff_lt.mpr (neg_lt_neg h)]
    | false =>
      obtain ⟨-, hnb⟩ := value_of_not_isNegative hb
      exact (compare_lt_iff_lt.mpr (hna.trans_le hnb)).symm
  | false =>
    obtain ⟨hva, hna⟩ := value_of_not_isNegative ha
    cases hb : b.isNegative with
    | true =>
      obtain ⟨-, hnb⟩ := value_of_isNegative hb
      exact (compare_gt_iff_gt.mpr (hnb.trans_le hna)).symm
    | false =>
      obtain ⟨hvb, -⟩ := value_of_not_isNegative hb
      rw [hva, hvb, compareMagnitude_eq]

theorem sameValue_iff {a b : Decimal} : a.sameValue b = true ↔ a.value = b.value := by
  rw [sameValue, compare_value, beq_iff_eq, compare_eq_iff_eq]

end MessageFormat.Decimal
