import MessageFormat.Proofs.Decimal.Nearest

/-!
How far rounding to a precision moves a magnitude. A result has the size of its decimal rounded at one exponent: it
passes nothing that fits, is off by at most half a unit of the last digit that is kept, and reaches a number of all
digits of the precision from half a unit below.
-/

set_option autoImplicit false

namespace MessageFormat.Decimal

variable {d f r : Decimal} {e : ℤ} {N precision : Nat}

/-- The exponent of the last digit that a result keeps. -/
def lastKept (d : Decimal) (precision : Nat) : ℤ := max d.exponent (d.leastKept precision)

theorem size_roundedAt_of_isZero (h : d.isZero = true) (e : ℤ) : (d.roundedAt e).size = 0 := by
  rw [roundedAt_of_isZero h]
  exact size_of_isZero h

theorem rounded_eq_roundTo (h : d.exponent < d.leastKept precision)
    (he : (d.rounded precision).exponent = d.leastKept precision) :
    d.rounded precision = d.roundTo (d.leastKept precision) := by
  have hlast := exponent_roundTo h
  by_cases hlong : precision < (d.roundTo (d.leastKept precision)).digitCount
  · -- a second rounding would have raised the exponent
    have hround : d.rounded precision =
        (d.roundTo (d.leastKept precision)).roundTo ((d.roundTo (d.leastKept precision)).exponent + 1) := by
      rw [rounded, if_pos hlong]
    rw [hround, exponent_roundTo (by omega), hlast] at he
    omega
  · rw [rounded, if_neg hlong]

/-- A carry leaves the size as it is. -/
theorem size_rounded_eq (hp : 0 < precision) (hd : d.isZero = false) :
    (d.rounded precision).size = (d.roundedAt (d.lastKept precision)).size := by
  cases rounds hp hd with
  | exact h hr =>
    rw [hr, lastKept, max_eq_left h, size_roundedAt_of_le le_rfl]
  | kept h hsize hc hf he =>
    have hround : d.roundedAt (d.leastKept precision) = d.roundTo (d.leastKept precision) := if_neg (Int.not_le.mpr h)
    rw [lastKept, max_eq_right h.le, hround, rounded_eq_roundTo h he]
  | carried h hl hsize hc he =>
    have hpower : (d.rounded precision).size = 10 ^ (d.leastKept precision + precision) := by
      have hexponent : d.leastKept precision + precision =
          ((precision - 1 : ℕ) : ℤ) + (d.leastKept precision + 1) := by omega
      rw [size, hc, he, hexponent, zpow_add₀ (by norm_num) ((precision - 1 : ℕ) : ℤ), zpow_natCast]
      push_cast
      rfl
    have htop : d.size ≤ 10 ^ (d.leastKept precision + precision) := by
      have hlt := (size_bounds hd).2
      rw [show d.adjusted + 1 = d.leastKept precision + precision by omega] at hlt
      exact hlt.le
    rw [lastKept, max_eq_right h.le, hpower]
    refine le_antisymm ?_ (size_roundedAt_le_pow (by omega) htop)
    rw [pow_le_size_roundedAt_iff (by omega)]
    refine le_trans (le_of_eq ?_) hsize
    rw [threshold, zpow_add₀ (by norm_num), zpow_natCast]
    push_cast
    ring

theorem size_of_finish (hp : 0 < precision) (h : finish d precision = .ok r) :
    r.size = (d.roundedAt (d.lastKept precision)).size := by
  rcases finish_eq_ok h with ⟨hd, hr, -⟩ | ⟨hd, rfl, -⟩
  · rw [size_of_isZero hr, size_roundedAt_of_isZero hd]
  · exact size_rounded_eq hp hd

/-- What is below the bound has a result. -/
theorem exists_finish (hp : 0 < precision) (h : d.size < overflowBound precision) : ∃ r, finish d precision = .ok r := by
  cases hr : finish d precision with
  | ok r => exact ⟨r, rfl⟩
  | error s => exact absurd ((finish_eq_error_iff hp).mp hr).2 (not_le.mpr h)

/-- Above the smallest numbers the first digit decides which digit is the last. -/
theorem leastKept_of_lt (h : tinyExponent precision < d.leastKept precision) :
    d.leastKept precision = d.adjusted + 1 - precision := by
  unfold leastKept adjusted at *
  omega

theorem size_lt_pow (h : d.digitCount ≤ precision) : d.size < 10 ^ (d.exponent + precision) := by
  have hlt : (d.coefficient : ℚ) < 10 ^ precision := by
    exact_mod_cast d.coefficient_lt.trans_le (Nat.pow_le_pow_right (by decide) h)
  rw [size, zpow_add₀ (by norm_num), zpow_natCast, mul_comm]
  exact mul_lt_mul_of_pos_left hlt (by positivity)

/-- Rounding does not pass what fits. -/
theorem size_finish_le (hp : 0 < precision) (h : finish d precision = .ok r) (hf : f.Fits precision)
    (hle : d.size ≤ f.size) : r.size ≤ f.size := by
  rw [size_of_finish hp h]
  cases hd : d.isZero with
  | true =>
    rw [size_roundedAt_of_isZero hd]
    exact f.size_nonneg
  | false =>
    rcases le_or_gt (d.leastKept precision) d.exponent with hexact | hround
    · rwa [lastKept, max_eq_left hexact, size_roundedAt_of_le le_rfl]
    rw [lastKept, max_eq_right hround.le]
    rcases le_or_gt (d.leastKept precision) f.exponent with hlow | hhigh
    · have hunit : f.size = (f.lowerTo (d.leastKept precision)).coefficient * (10 : ℚ) ^ d.leastKept precision := by
        rw [← size_lowerTo f (d.leastKept precision), size, lowerTo]
        dsimp only
        rw [min_eq_right hlow]
      rw [hunit] at hle ⊢
      exact size_roundedAt_le hle
    · -- then the first digit of what is rounded stands above all digits of what fits
      have hfirst := leastKept_of_lt (hf.1.trans_lt hhigh)
      have hbelow : f.size < 10 ^ d.adjusted :=
        (size_lt_pow hf.2.2).trans_le (zpow_le_zpow_right₀ (by norm_num) (by omega))
      exact absurd ((size_bounds hd).1.trans hle) (not_le.mpr hbelow)

/-- Below the power of ten after the precision at most half a unit is lost. -/
theorem error_of_finish (hp : 0 < precision) (h : finish d precision = .ok r) (he : tinyExponent precision ≤ e)
    (hlt : d.size < 10 ^ (e + precision)) : 2 * |d.size - r.size| ≤ 10 ^ e := by
  have hnone : 2 * |d.size - d.size| ≤ (10 : ℚ) ^ e := by
    rw [sub_self, abs_zero, mul_zero]
    positivity
  rw [size_of_finish hp h]
  cases hd : d.isZero with
  | true => rwa [size_roundedAt_of_isZero hd, ← size_of_isZero hd]
  | false =>
    rcases le_or_gt (d.leastKept precision) d.exponent with hexact | hround
    · rwa [lastKept, max_eq_left hexact, size_roundedAt_of_le le_rfl]
    · have hfirst := (zpow_lt_zpow_iff_right₀ (by norm_num : (1 : ℚ) < 10)).mp ((size_bounds hd).1.trans_lt hlt)
      have hlast : d.leastKept precision ≤ e := by
        unfold leastKept adjusted at *
        omega
      obtain ⟨-, -, hnear, -⟩ := nearestEven_roundedAt d (d.leastKept precision)
      rw [lastKept, max_eq_right hround.le]
      exact hnear.trans (zpow_le_zpow_right₀ (by norm_num) hlast)

/-- An even number with all digits of the precision is reached from half a unit below. -/
theorem le_size_finish_iff (hp : 1 < precision) (h : finish d precision = .ok r) (he : tinyExponent precision ≤ e)
    (heven : N % 2 = 0) (hlow : 10 ^ (precision - 1) < N) (hhigh : N ≤ 10 ^ precision) :
    N * (10 : ℚ) ^ e ≤ r.size ↔ (N - 1 / 2) * (10 : ℚ) ^ e ≤ d.size := by
  have hunit : (0 : ℚ) < 10 ^ e := by positivity
  have hbelow : (10 : ℚ) ^ (e + precision - 1) < (N - 1 / 2) * 10 ^ e := by
    have hdigits : (10 : ℚ) ^ (precision - 1) + 1 ≤ N := by exact_mod_cast hlow
    rw [show e + precision - 1 = ((precision - 1 : ℕ) : ℤ) + e by omega, zpow_add₀ (by norm_num), zpow_natCast]
    exact mul_lt_mul_of_pos_right (by linarith) hunit
  have habove : N * (10 : ℚ) ^ e ≤ 10 ^ (e + precision) := by
    have hdigits : (N : ℚ) ≤ 10 ^ precision := by exact_mod_cast hhigh
    rw [zpow_add₀ (by norm_num), zpow_natCast, mul_comm]
    exact mul_le_mul_of_nonneg_left hdigits hunit.le
  have hhalf : (N - 1 / 2) * (10 : ℚ) ^ e ≤ N * 10 ^ e := mul_le_mul_of_nonneg_right (by linarith) hunit.le
  have hsame (hround : (d.roundedAt (d.lastKept precision)).size = (d.roundedAt e).size) :
      N * (10 : ℚ) ^ e ≤ r.size ↔ (N - 1 / 2) * (10 : ℚ) ^ e ≤ d.size := by
    rw [size_of_finish (by omega) h, hround, le_size_roundedAt_iff heven]
  cases hd : d.isZero with
  | true => exact hsame (by rw [size_roundedAt_of_isZero hd, size_roundedAt_of_isZero hd])
  | false =>
    have hbounds := size_bounds hd
    rcases lt_or_ge (max e d.exponent) (d.leastKept precision) with hround | hkept
    · -- all digits stand above the number
      have hfirst := leastKept_of_lt (he.trans_lt ((le_max_left _ _).trans_lt hround))
      have hpower : (10 : ℚ) ^ (e + precision) ≤ 10 ^ d.adjusted :=
        zpow_le_zpow_right₀ (by norm_num) (by omega)
      refine iff_of_true ?_ (hhalf.trans (habove.trans (hpower.trans hbounds.1)))
      rw [size_of_finish (by omega) h, lastKept, max_eq_right ((le_max_right _ _).trans hround.le)]
      refine habove.trans (hpower.trans ((pow_le_size_roundedAt_iff (by omega) d).mpr ?_))
      have hpos : (0 : ℚ) < 1 / 2 * 10 ^ d.leastKept precision := by positivity
      linarith [hbounds.1]
    rcases le_or_gt e d.exponent with hexact | hcoarse
    · rw [max_eq_right hexact] at hkept
      refine hsame ?_
      rw [lastKept, max_eq_left hkept, size_roundedAt_of_le le_rfl, size_roundedAt_of_le hexact]
    rw [max_eq_left hcoarse.le] at hkept
    have hlast : d.lastKept precision ≤ e := max_le hcoarse.le hkept
    rcases hlast.eq_or_lt with heq | hlt
    · exact hsame (by rw [heq])
    · -- all digits stand below the number
      have hfirst : d.adjusted + 1 - precision ≤ d.lastKept precision := by
        unfold lastKept leastKept adjusted
        omega
      have htop : d.size ≤ 10 ^ (e + precision - 1) :=
        hbounds.2.le.trans (zpow_le_zpow_right₀ (by norm_num) (by omega))
      refine iff_of_false (not_le.mpr ?_) (not_le.mpr (htop.trans_lt hbelow))
      rw [size_of_finish (by omega) h]
      exact (size_roundedAt_le_pow (by omega) htop).trans_lt (hbelow.trans_le hhalf)

end MessageFormat.Decimal
