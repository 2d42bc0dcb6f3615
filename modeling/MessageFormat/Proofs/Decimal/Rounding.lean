import MessageFormat.Decimal.Arithmetic
import MessageFormat.Proofs.Decimal.Value

/-!
Rounding to a precision. A decimal does not pass the bounds that lie half a unit below a power of ten.
-/

set_option autoImplicit false

namespace MessageFormat.Decimal

open Text

theorem divideHalfEven_le (n m : Nat) : divideHalfEven n m ≤ n / m + 1 := by
  unfold divideHalfEven
  dsimp only
  split
  · omega
  · split <;> omega

theorem le_divideHalfEven (n m : Nat) : n / m ≤ divideHalfEven n m := by
  unfold divideHalfEven
  dsimp only
  split
  · omega
  · split <;> omega

/-- A quotient that is rounded reaches an even number from half below it. -/
theorem le_divideHalfEven_iff {n m q : Nat} (hm : 0 < m) (hq : q % 2 = 0) :
    q ≤ divideHalfEven n m ↔ 2 * q * m ≤ 2 * n + m := by
  have hn : n / m * m + n % m = n := by rw [Nat.mul_comm]; exact Nat.div_add_mod n m
  have hr := Nat.mod_lt n hm
  generalize hd : n / m = d at hn
  generalize hmod : n % m = r at hn hr
  have hunit : divideHalfEven n m = if 2 * r < m then d else if m < 2 * r then d + 1 else d + d % 2 := by
    rw [divideHalfEven, hd, hmod]
  rw [hunit, ← hn]
  rcases Nat.lt_trichotomy q (d + 1) with h | rfl | h
  · have hle : q * m ≤ d * m := Nat.mul_le_mul_right m (by omega)
    have hdist : 2 * q * m = 2 * (q * m) := by ring
    constructor
    · intro
      omega
    · intro
      split_ifs <;> omega
  · have hdist : 2 * (d + 1) * m = 2 * (d * m) + 2 * m := by ring
    rw [hdist]
    split_ifs <;> omega
  · have hle : (d + 2) * m ≤ q * m := Nat.mul_le_mul_right m (by omega)
    have hdist : 2 * q * m = 2 * (q * m) := by ring
    have hdist' : (d + 2) * m = d * m + 2 * m := by ring
    constructor
    · intro
      split_ifs at * <;> omega
    · intro
      omega

/-- Where more digits are rounded away than there are, nothing is left. -/
theorem dropDigits_eq {n digits : Nat} (h : n < 10 ^ digits) (places : Nat) :
    dropDigits n digits places = divideHalfEven n (10 ^ places) := by
  unfold dropDigits
  split
  · rename_i hlt
    have hpow : 10 * 10 ^ digits ≤ 10 ^ places := by
      rw [← Nat.pow_succ']
      exact Nat.pow_le_pow_right (by omega) hlt
    rw [divideHalfEven, Nat.div_eq_of_lt (by omega), Nat.mod_eq_of_lt (by omega)]
    rw [if_pos (by omega)]
  · rfl

section Size

variable {d : Decimal} {e : ℤ} {N : ℕ}

theorem exponent_roundTo (h : d.exponent < e) : (d.roundTo e).exponent = e := by
  rw [roundTo, if_neg (by omega)]

theorem coefficient_roundTo (h : d.exponent < e) : (d.roundTo e).coefficient =
    divideHalfEven d.coefficient (10 ^ (e - d.exponent).toNat) := by
  rw [roundTo, if_neg (by omega)]
  exact dropDigits_eq d.coefficient_lt _

theorem le_size_iff (d : Decimal) : N * (10 : ℚ) ^ d.exponent ≤ d.size ↔ N ≤ d.coefficient := by
  unfold size
  rw [mul_le_mul_iff_left₀ (by positivity)]
  exact Nat.cast_le

/-- A rounded decimal reaches an even multiple of its unit from half a unit below. -/
theorem le_coefficient_roundTo_iff (h : d.exponent < e) (hN : N % 2 = 0) :
    N ≤ (d.roundTo e).coefficient ↔ (N - 1 / 2) * (10 : ℚ) ^ e ≤ d.size := by
  obtain ⟨k, hk⟩ : ∃ k : ℕ, e = k + d.exponent := ⟨(e - d.exponent).toNat, by omega⟩
  have hunit : (10 : ℚ) ^ e = 10 ^ k * 10 ^ d.exponent := by
    rw [hk, zpow_add₀ (by norm_num), zpow_natCast]
  have hpow : (e - d.exponent).toNat = k := by omega
  rw [coefficient_roundTo h, hpow, le_divideHalfEven_iff (by positivity) hN, hunit, size,
    ← mul_assoc, mul_le_mul_iff_left₀ (by positivity)]
  rw [← Nat.cast_le (α := ℚ)]
  push_cast
  constructor <;> intro <;> linarith

end Size

/-- The exponent that a result is rounded at: the first digits fill the precision, unless the exponent range
ends before. -/
def leastKept (d : Decimal) (precision : Nat) : ℤ :=
  max (tinyExponent precision) (d.exponent + d.digitCount - precision)

/-- A result as it is rounded, before it is compared with the exponent range. -/
def rounded (d : Decimal) (precision : Nat) : Decimal :=
  let r := d.roundTo (d.leastKept precision)
  if precision < r.digitCount then r.roundTo (r.exponent + 1) else r

/-- Half a unit below a power of ten, with as many nines before the half as the precision has digits. -/
def threshold (precision : Nat) (e : ℤ) : ℚ := ((10 ^ precision : ℕ) - 1 / 2) * 10 ^ e

theorem digitCount_le_iff {d : Decimal} {n : Nat} (hn : 0 < n) :
    d.digitCount ≤ n ↔ d.coefficient < 10 ^ n :=
  Nat.length_toDigits_le_iff (by decide) hn

/-- What rounding does to a nonzero decimal: nothing, or it keeps fewer than all digits of the precision, or
it carries to the next power of ten. -/
inductive Rounds (d : Decimal) (precision : Nat) : Prop where
  | exact (h : d.leastKept precision ≤ d.exponent) (hr : d.rounded precision = d)
  | kept (h : d.exponent < d.leastKept precision)
      (hd : d.size < threshold precision (d.leastKept precision))
      (hc : (d.rounded precision).coefficient < 10 ^ precision)
      (hf : d.leastKept precision = d.adjusted + 1 - precision →
        10 ^ (precision - 1) ≤ (d.rounded precision).coefficient)
      (he : (d.rounded precision).exponent = d.leastKept precision)
  | carried (h : d.exponent < d.leastKept precision)
      (hl : d.leastKept precision = d.adjusted + 1 - precision)
      (hd : threshold precision (d.leastKept precision) ≤ d.size)
      (hc : (d.rounded precision).coefficient = 10 ^ (precision - 1))
      (he : (d.rounded precision).exponent = d.leastKept precision + 1)

theorem digitCount_le_of_exact {d : Decimal} {precision : Nat}
    (h : d.leastKept precision ≤ d.exponent) : d.digitCount ≤ precision := by
  unfold leastKept at h
  omega

theorem threshold_lt (precision : Nat) (e : ℤ) : threshold precision e < 10 ^ (e + precision) := by
  have hpos : (0 : ℚ) < 10 ^ e := by positivity
  rw [threshold, zpow_add₀ (by norm_num), zpow_natCast]
  push_cast
  nlinarith

theorem le_threshold {precision : Nat} (hp : 0 < precision) (e : ℤ) :
    10 ^ (e + precision - 1) < threshold precision e := by
  obtain ⟨n, rfl⟩ : ∃ n, precision = n + 1 := ⟨precision - 1, by omega⟩
  have hone : (1 : ℚ) ≤ 10 ^ n := one_le_pow₀ (by norm_num)
  have hpos : (0 : ℚ) < 10 ^ e := by positivity
  have he : e + (n + 1 : ℕ) - 1 = e + n := by omega
  rw [threshold, he, zpow_add₀ (by norm_num), zpow_natCast]
  push_cast
  rw [pow_succ]
  nlinarith

theorem rounds {d : Decimal} {precision : Nat} (hp : 0 < precision) (hd : d.isZero = false) :
    Rounds d precision := by
  by_cases h : d.leastKept precision ≤ d.exponent
  · have hr : d.roundTo (d.leastKept precision) = d := if_pos h
    refine .exact h ?_
    rw [rounded, hr, if_neg (Nat.not_lt.mpr (digitCount_le_of_exact h))]
  have hlt : d.exponent < d.leastKept precision := Int.not_le.mp h
  have heven : 10 ^ precision % 2 = 0 := by
    rw [Nat.pow_mod]
    simp [hp.ne']
  have hkey := le_coefficient_roundTo_iff hlt heven
  have he := exponent_roundTo hlt
  by_cases hc : 10 ^ precision ≤ (d.roundTo (d.leastKept precision)).coefficient
  · have hsize := hkey.mp hc
    have hadj : d.exponent + d.digitCount = d.adjusted + 1 := by
      unfold adjusted
      omega
    -- below the bound of small numbers no coefficient fills the precision
    have hl : d.leastKept precision = d.adjusted + 1 - precision := by
      have hlt' : (10 : ℚ) ^ (d.leastKept precision + precision - 1) < 10 ^ (d.adjusted + 1) :=
        (le_threshold hp _).trans_le (hsize.trans (size_bounds hd).2.le)
      have hexp := (zpow_lt_zpow_iff_right₀ (by norm_num : (1 : ℚ) < 10)).mp hlt'
      have hle : d.exponent + d.digitCount - precision ≤ d.leastKept precision := le_max_right _ _
      omega
    have hcount : d.digitCount = precision + (d.leastKept precision - d.exponent).toNat := by omega
    have hcoeff : (d.roundTo (d.leastKept precision)).coefficient = 10 ^ precision := by
      refine le_antisymm ?_ hc
      rw [coefficient_roundTo hlt]
      refine (divideHalfEven_le _ _).trans ?_
      have hlt := d.coefficient_lt
      rw [hcount, pow_add] at hlt
      exact Nat.div_lt_of_lt_mul (by rwa [Nat.mul_comm])
    have hround : d.rounded precision =
        (d.roundTo (d.leastKept precision)).roundTo (d.leastKept precision + 1) := by
      rw [rounded, he, if_pos]
      rw [← Nat.not_le, digitCount_le_iff hp]
      exact Nat.not_lt.mpr hc
    refine .carried hlt hl hsize ?_ ?_
    · rw [hround, coefficient_roundTo (by omega), hcoeff, he]
      obtain ⟨n, rfl⟩ : ∃ n, precision = n + 1 := ⟨precision - 1, by omega⟩
      have hstep : (d.leastKept (n + 1) + 1 - d.leastKept (n + 1)).toNat = 1 := by omega
      rw [hstep, pow_one, pow_succ, divideHalfEven]
      simp
    · rw [hround, exponent_roundTo (by omega)]
  · have hsize := lt_of_not_ge (mt hkey.mpr hc)
    have hround : d.rounded precision = d.roundTo (d.leastKept precision) := by
      rw [rounded, if_neg]
      rw [Nat.not_lt, digitCount_le_iff hp]
      exact Nat.lt_of_not_le hc
    refine .kept hlt hsize (by rw [hround]; exact Nat.lt_of_not_le hc) (fun hl => ?_) (by rw [hround, he])
    have hcount : d.digitCount - 1 = precision - 1 + (d.leastKept precision - d.exponent).toNat := by
      unfold adjusted at hl
      omega
    have hle := le_coefficient hd
    rw [hcount, pow_add] at hle
    rw [hround, coefficient_roundTo hlt]
    exact ((Nat.le_div_iff_mul_le (by positivity)).mpr hle).trans (le_divideHalfEven _ _)

theorem threshold_mono (precision : Nat) {e e' : ℤ} (h : e ≤ e') :
    threshold precision e ≤ threshold precision e' := by
  have hone : (1 : ℚ) ≤ (10 ^ precision : ℕ) := by exact_mod_cast Nat.one_le_pow _ _ (by norm_num)
  exact mul_le_mul_of_nonneg_left (zpow_le_zpow_right₀ (by norm_num) h) (by linarith)

theorem threshold_pos (precision : Nat) (e : ℤ) : 0 < threshold precision e := by
  have hone : (1 : ℚ) ≤ (10 ^ precision : ℕ) := by exact_mod_cast Nat.one_le_pow _ _ (by norm_num)
  exact mul_pos (by linarith) (by positivity)

/-- Between two thresholds there is a power of ten. -/
theorem threshold_lt_of_lt (precision : Nat) {e e' : ℤ} (h : e < e') :
    threshold precision e < 10 ^ (e' + precision - 1) :=
  (threshold_lt precision e).trans_le (zpow_le_zpow_right₀ (by norm_num) (by omega))

theorem size_lt_threshold {d : Decimal} {precision : Nat} (h : d.coefficient < 10 ^ precision) :
    d.size < threshold precision d.exponent := by
  have hle : (d.coefficient : ℚ) + 1 ≤ (10 ^ precision : ℕ) := by exact_mod_cast h
  exact mul_lt_mul_of_pos_right (by linarith) (by positivity)

/-- Rounding does not pass a threshold. -/
theorem threshold_le_rounded_iff {d : Decimal} {precision : Nat} {e : ℤ} (hp : 0 < precision)
    (hd : d.isZero = false) (he : tinyExponent precision ≤ e) :
    threshold precision e ≤ (d.rounded precision).size ↔ threshold precision e ≤ d.size := by
  have hnormal (h : e < d.leastKept precision) :
      d.leastKept precision = d.adjusted + 1 - precision := by
    unfold leastKept adjusted at *
    omega
  cases rounds hp hd with
  | exact h hr => rw [hr]
  | kept h hsize hc hf hr =>
    have hlt := size_lt_threshold hc
    rw [hr] at hlt
    by_cases hle : d.leastKept precision ≤ e
    · have hmono := threshold_mono precision hle
      constructor <;> intro <;> linarith
    · -- the threshold is below the first digit that is kept
      have hl := hnormal (by omega)
      have hbelow := threshold_lt_of_lt precision (Int.not_le.mp hle)
      have hadj : d.leastKept precision + precision - 1 = d.adjusted := by omega
      have hkept : (10 : ℚ) ^ (d.leastKept precision + precision - 1) ≤ (d.rounded precision).size := by
        have hcast : (10 : ℚ) ^ (precision - 1) ≤ (d.rounded precision).coefficient := by
          exact_mod_cast hf hl
        have hexp : d.leastKept precision + precision - 1 =
            ((precision - 1 : ℕ) : ℤ) + d.leastKept precision := by omega
        rw [size, hr, hexp, zpow_add₀ (by norm_num), zpow_natCast]
        exact mul_le_mul_of_nonneg_right hcast (by positivity)
      have hd' := (size_bounds hd).1
      rw [← hadj] at hd'
      constructor <;> intro <;> linarith
  | carried h hl hsize hc hr =>
    have hpower : (d.rounded precision).size = 10 ^ (d.leastKept precision + precision) := by
      have hexp : d.leastKept precision + precision =
          ((precision - 1 : ℕ) : ℤ) + (d.leastKept precision + 1) := by omega
      rw [size, hc, hr, hexp, zpow_add₀ (by norm_num) ((precision - 1 : ℕ) : ℤ), zpow_natCast]
      push_cast
      rfl
    by_cases hle : e ≤ d.leastKept precision
    · have hmono := threshold_mono precision hle
      have hlt := threshold_lt precision (d.leastKept precision)
      constructor <;> intro <;> linarith
    · have hbelow : (10 : ℚ) ^ (d.leastKept precision + precision) < threshold precision e :=
        (zpow_le_zpow_right₀ (by norm_num) (by omega)).trans_lt (le_threshold hp e)
      have hd' := (size_bounds hd).2
      have hadj : d.adjusted + 1 = d.leastKept precision + precision := by omega
      rw [hadj] at hd'
      constructor <;> intro <;> linarith

end MessageFormat.Decimal
