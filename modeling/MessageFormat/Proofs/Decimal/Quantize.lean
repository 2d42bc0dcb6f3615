import MessageFormat.Proofs.Decimal.Operations

/-!
Rounding at an exponent. What is rounded reaches an even multiple of its unit from half a unit below and passes
none that bounds it, and it is found where it has no more digits than the precision.
-/

set_option autoImplicit false

namespace MessageFormat.Decimal

/-- The decimal at an exponent, with zeros at its end or rounded half to even. -/
def roundedAt (d : Decimal) (e : ℤ) : Decimal := if e ≤ d.exponent then d.lowerTo e else d.roundTo e

variable {d r : Decimal} {e : ℤ} {N precision : Nat}

theorem divideHalfEven_le_of_le {n m q : Nat} (h : n ≤ q * m) : divideHalfEven n m ≤ q := by
  rcases Nat.eq_zero_or_pos m with rfl | hm
  · simp_all [divideHalfEven]
  have hn : n / m * m + n % m = n := by rw [Nat.mul_comm]; exact Nat.div_add_mod n m
  have hdiv : n / m ≤ q := Nat.div_le_of_le_mul (by rwa [Nat.mul_comm])
  rcases hdiv.lt_or_eq with hlt | rfl
  · exact (divideHalfEven_le n m).trans hlt
  · -- the whole quotient leaves nothing
    have hrest : n % m = 0 := by omega
    simp [divideHalfEven, hrest, hm]

theorem exponent_roundedAt (d : Decimal) (e : ℤ) : (d.roundedAt e).exponent = e := by
  unfold roundedAt
  split
  · rename_i h
    exact min_eq_right h
  · rename_i h
    exact exponent_roundTo (Int.not_le.mp h)

theorem negative_roundedAt (d : Decimal) (e : ℤ) : (d.roundedAt e).negative = d.negative := by
  unfold roundedAt
  split
  · rfl
  · exact negative_roundTo d e

theorem size_roundedAt_of_le (h : e ≤ d.exponent) : (d.roundedAt e).size = d.size := by
  have hround : d.roundedAt e = d.lowerTo e := if_pos h
  rw [hround, size_lowerTo]

theorem roundedAt_of_isZero (h : d.isZero = true) (e : ℤ) : d.roundedAt e = { d with exponent := e } := by
  have hzero := isZero_iff.mp h
  obtain ⟨negative, coefficient, exponent⟩ := d
  obtain rfl : coefficient = 0 := hzero
  unfold roundedAt
  split
  · rename_i hle
    simp [lowerTo, min_eq_right hle]
  · rename_i hlt
    rw [roundTo, if_neg hlt, dropDigits_eq (Nat.pow_pos (by decide))]
    simp [divideHalfEven]

theorem half_le_size_iff (d : Decimal) : (N - 1 / 2) * (10 : ℚ) ^ d.exponent ≤ d.size ↔ N ≤ d.coefficient := by
  unfold size
  rw [mul_le_mul_iff_left₀ (by positivity)]
  constructor
  · intro h
    by_contra hlt
    have hle : (d.coefficient : ℚ) + 1 ≤ N := by exact_mod_cast Nat.not_le.mp hlt
    linarith
  · intro h
    have hle : (N : ℚ) ≤ d.coefficient := by exact_mod_cast h
    linarith

/-- An even multiple of the unit is reached from half a unit below. -/
theorem le_size_roundedAt_iff (hN : N % 2 = 0) (d : Decimal) (e : ℤ) :
    N * (10 : ℚ) ^ e ≤ (d.roundedAt e).size ↔ (N - 1 / 2) * (10 : ℚ) ^ e ≤ d.size := by
  have hreach := le_size_iff (N := N) (d.roundedAt e)
  rw [exponent_roundedAt] at hreach
  rw [hreach]
  by_cases h : e ≤ d.exponent
  · have hround : d.roundedAt e = d.lowerTo e := if_pos h
    have hexponent : (d.lowerTo e).exponent = e := min_eq_right h
    have hhalf := half_le_size_iff (N := N) (d.lowerTo e)
    rw [hexponent, size_lowerTo] at hhalf
    rw [hround, hhalf]
  · have hround : d.roundedAt e = d.roundTo e := if_neg h
    rw [hround, le_coefficient_roundTo_iff (Int.not_le.mp h) hN]

/-- No multiple of the unit is passed. -/
theorem size_roundedAt_le (h : d.size ≤ N * (10 : ℚ) ^ e) : (d.roundedAt e).size ≤ N * (10 : ℚ) ^ e := by
  by_cases he : e ≤ d.exponent
  · have hround : d.roundedAt e = d.lowerTo e := if_pos he
    rwa [hround, size_lowerTo]
  · have hlt := Int.not_le.mp he
    obtain ⟨k, hk⟩ : ∃ k : ℕ, e = k + d.exponent := ⟨(e - d.exponent).toNat, by omega⟩
    have hpow : (e - d.exponent).toNat = k := by omega
    have hunit : (10 : ℚ) ^ e = 10 ^ k * 10 ^ d.exponent := by
      rw [hk, zpow_add₀ (by norm_num), zpow_natCast]
    have hcoefficient : d.coefficient ≤ N * 10 ^ k := by
      rw [hunit, size, ← mul_assoc, mul_le_mul_iff_left₀ (by positivity)] at h
      exact_mod_cast h
    have hround : d.roundedAt e = d.roundTo e := if_neg he
    rw [hround, size, exponent_roundTo hlt, coefficient_roundTo hlt, hpow]
    have hle : ((divideHalfEven d.coefficient (10 ^ k) : ℕ) : ℚ) ≤ N := by
      exact_mod_cast divideHalfEven_le_of_le hcoefficient
    exact mul_le_mul_of_nonneg_right hle (by positivity)

/-! Powers of ten. -/

theorem zpow_eq_mul {n : ℤ} (h : e ≤ n) : (10 : ℚ) ^ n = (10 ^ (n - e).toNat : ℕ) * 10 ^ e := by
  have hn : n = ((n - e).toNat : ℤ) + e := by omega
  conv_lhs => rw [hn, zpow_add₀ (by norm_num), zpow_natCast]
  push_cast
  rfl

theorem pow_le_size_roundedAt_iff {n : ℤ} (h : e < n) (d : Decimal) :
    (10 : ℚ) ^ n ≤ (d.roundedAt e).size ↔ 10 ^ n - 1 / 2 * 10 ^ e ≤ d.size := by
  obtain ⟨k, hk⟩ : ∃ k, (n - e).toNat = k + 1 := ⟨(n - e).toNat - 1, by omega⟩
  have heven : 10 ^ (n - e).toNat % 2 = 0 := by
    rw [hk, Nat.pow_mod]
    simp
  rw [zpow_eq_mul h.le, le_size_roundedAt_iff heven, sub_mul]

theorem size_roundedAt_le_pow {n : ℤ} (he : e ≤ n) (h : d.size ≤ 10 ^ n) : (d.roundedAt e).size ≤ 10 ^ n := by
  rw [zpow_eq_mul he] at h ⊢
  exact size_roundedAt_le h

theorem adjusted_le_iff {n : ℤ} (h : d.exponent ≤ n) : d.adjusted ≤ n ↔ d.size < 10 ^ (n + 1) := by
  by_cases hz : d.isZero = true
  · rw [adjusted_of_isZero hz, size_of_isZero hz]
    exact iff_of_true h (by positivity)
  · obtain ⟨hlow, hhigh⟩ := size_bounds (d := d) (by simpa using hz)
    refine ⟨fun hle => hhigh.trans_le (zpow_le_zpow_right₀ (by norm_num) (by omega)), fun hlt => ?_⟩
    have hexponents := hlow.trans_lt hlt
    rw [zpow_lt_zpow_iff_right₀ (by norm_num)] at hexponents
    omega

/-- What is less than half a unit below a power of ten is rounded to a number below it. -/
theorem adjusted_roundedAt_le_iff {n : ℤ} (h : e ≤ n) (d : Decimal) :
    (d.roundedAt e).adjusted ≤ n ↔ d.size + 1 / 2 * 10 ^ e < 10 ^ (n + 1) := by
  rw [adjusted_le_iff ((exponent_roundedAt d e).trans_le h), ← not_le,
    pow_le_size_roundedAt_iff (by omega), not_le, lt_sub_iff_add_lt]

/-! Where it is found. -/

theorem finish_roundedAt (hp : 0 < precision) (he : tinyExponent precision ≤ e)
    (hc : (d.roundedAt e).digitCount ≤ precision) (ha : (d.roundedAt e).adjusted ≤ maxExponent) :
    finish (d.roundedAt e) precision = .ok (d.roundedAt e) :=
  Fits.finish_eq ⟨he.trans_eq (exponent_roundedAt d e).symm, ha, hc⟩ hp

theorem adjusted_roundedAt_of_isZero (h : d.isZero = true) :
    (d.roundedAt e).digitCount = 1 ∧ (d.roundedAt e).adjusted = e := by
  have hzero : (d.roundedAt e).isZero = true := by
    rw [roundedAt_of_isZero h]
    exact h
  refine ⟨?_, by rw [adjusted_of_isZero hzero, exponent_roundedAt]⟩
  rw [digitCount, isZero_iff.mp hzero]
  rfl

/-- Rounding at an exponent gives the rounded decimal or is refused. -/
theorem eq_of_quantize (hp : 0 < precision) (h : d.quantize e precision = .ok r) : r = d.roundedAt e := by
  unfold quantize at h
  split at h
  · cases h
  · rename_i he
    push Not at he
    split at h
    · rename_i hz
      obtain ⟨hcount, hadjusted⟩ := adjusted_roundedAt_of_isZero (e := e) hz
      rw [← roundedAt_of_isZero hz,
        finish_roundedAt hp he.2 (hcount.trans_le hp) (hadjusted.trans_le he.1)] at h
      exact (Except.ok.inj h).symm
    · split at h
      · cases h
      · change (if precision < (d.roundedAt e).digitCount ∨ maxExponent < (d.roundedAt e).adjusted
          then Except.error Signal.invalidOperation else finish (d.roundedAt e) precision) = .ok r at h
        split at h
        · cases h
        · rename_i hfits
          push Not at hfits
          rw [finish_roundedAt hp he.2 hfits.1 hfits.2] at h
          exact (Except.ok.inj h).symm

/-- It is not refused where there is room for its digits, and the exponent is in range. -/
theorem quantize_eq_ok (hp : 0 < precision) (he : tinyExponent precision ≤ e) (hmost : e ≤ maxExponent)
    (hroom : d.digitCount + (d.exponent - e) ≤ precision) (hc : (d.roundedAt e).digitCount ≤ precision)
    (ha : (d.roundedAt e).adjusted ≤ maxExponent) : d.quantize e precision = .ok (d.roundedAt e) := by
  have hfinish := finish_roundedAt hp he hc ha
  unfold quantize
  rw [if_neg (by omega)]
  split
  · rename_i hz
    rwa [← roundedAt_of_isZero hz]
  · rw [if_neg (by omega)]
    change (if precision < (d.roundedAt e).digitCount ∨ maxExponent < (d.roundedAt e).adjusted
      then Except.error Signal.invalidOperation else finish (d.roundedAt e) precision) = _
    rw [if_neg (by omega), hfinish]

end MessageFormat.Decimal
