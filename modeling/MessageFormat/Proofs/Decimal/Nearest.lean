import Mathlib.Algebra.Group.Int.Even
import MessageFormat.Proofs.Decimal.Quantize

/-!
Rounding half to even as a relation of numbers. It holds of each decimal and what it is rounded to at an exponent.
-/

set_option autoImplicit false

namespace MessageFormat.Decimal

/-- `r` is the multiple of `10 ^ e` nearest to `x`, and an even multiple if `x` lies in the middle of two. -/
def NearestEven (x : ℚ) (e : ℤ) (r : ℚ) : Prop :=
  ∃ n : ℤ, r = n * 10 ^ e ∧ 2 * |x - r| ≤ 10 ^ e ∧ (2 * |x - r| = 10 ^ e → Even n)

/-- What a rounded quotient leaves is at most half of the divisor, and all that it leaves after an odd one is less. -/
theorem divideHalfEven_spec (n : Nat) {m : Nat} (hm : 0 < m) :
    ∃ rest : ℤ, (n : ℤ) = divideHalfEven n m * m + rest ∧ 2 * |rest| ≤ m ∧
      (2 * |rest| = m → Even (divideHalfEven n m : ℤ)) := by
  have hn : n / m * m + n % m = n := by rw [Nat.mul_comm]; exact Nat.div_add_mod n m
  have hr := Nat.mod_lt n hm
  unfold divideHalfEven
  generalize n / m = q at *
  generalize n % m = r at *
  have habove : (n : ℤ) = ((q + 1 : ℕ) : ℤ) * m + (r - m : ℤ) := by
    rw [← hn]
    push_cast
    ring
  have hbelow : (n : ℤ) = q * m + r := by exact_mod_cast hn.symm
  have hup : |(r - m : ℤ)| = m - r := by rw [abs_of_neg (by omega), neg_sub]
  have hdown : |(r : ℤ)| = r := Nat.abs_cast r
  dsimp only
  split_ifs with hlt hgt
  · exact ⟨r, hbelow, by omega, fun h => by omega⟩
  · exact ⟨r - m, habove, by omega, fun h => by omega⟩
  · rcases Nat.mod_two_eq_zero_or_one q with heven | hodd
    · rw [heven, Nat.add_zero]
      exact ⟨r, hbelow, by omega, fun _ => Int.even_iff.mpr (by omega)⟩
    · rw [hodd]
      exact ⟨r - m, habove, by omega, fun _ => Int.even_iff.mpr (by omega)⟩

theorem nearestEven_self {x : ℚ} {n e : ℤ} (h : x = n * 10 ^ e) : NearestEven x e x := by
  have hpos : (0 : ℚ) < 10 ^ e := by positivity
  refine ⟨n, h, ?_, fun hhalf => ?_⟩
  · rw [sub_self, abs_zero, mul_zero]
    exact hpos.le
  · rw [sub_self, abs_zero, mul_zero] at hhalf
    exact absurd hhalf hpos.ne

theorem nearestEven_roundedAt (d : Decimal) (e : ℤ) : NearestEven d.size e (d.roundedAt e).size := by
  by_cases he : e ≤ d.exponent
  · have hround : d.roundedAt e = d.lowerTo e := if_pos he
    have hexponent : (d.lowerTo e).exponent = e := min_eq_right he
    rw [hround, size_lowerTo]
    refine nearestEven_self (n := (d.lowerTo e).coefficient) ?_
    rw [← size_lowerTo d e, size, hexponent, Int.cast_natCast]
  · have hlt := Int.not_le.mp he
    have hround : d.roundedAt e = d.roundTo e := if_neg he
    obtain ⟨k, hk⟩ : ∃ k : ℕ, e = k + d.exponent := ⟨(e - d.exponent).toNat, by omega⟩
    have hpow : (e - d.exponent).toNat = k := by omega
    have hunit : (10 : ℚ) ^ e = (10 ^ k : ℕ) * 10 ^ d.exponent := by
      rw [hk, zpow_add₀ (by norm_num), zpow_natCast]
      push_cast
      rfl
    obtain ⟨rest, hrest, hhalf, heven⟩ := divideHalfEven_spec d.coefficient (m := 10 ^ k) (by positivity)
    have hpos : (0 : ℚ) < 10 ^ d.exponent := by positivity
    rw [hround, size, size, exponent_roundTo hlt, coefficient_roundTo hlt, hpow]
    have hdistance : |(d.coefficient : ℚ) * 10 ^ d.exponent -
        (divideHalfEven d.coefficient (10 ^ k) : ℕ) * 10 ^ e| = (|rest| : ℤ) * 10 ^ d.exponent := by
      have hcoefficient : (d.coefficient : ℚ) = (divideHalfEven d.coefficient (10 ^ k) : ℕ) * (10 ^ k : ℕ) + rest := by
        exact_mod_cast hrest
      rw [hunit, ← mul_assoc, ← sub_mul, abs_mul, abs_of_pos hpos, hcoefficient, add_sub_cancel_left]
      push_cast
      rfl
    refine ⟨divideHalfEven d.coefficient (10 ^ k), by rw [Int.cast_natCast], ?_, fun h => heven ?_⟩
    · rw [hdistance, hunit, ← mul_assoc, mul_le_mul_iff_left₀ hpos]
      exact_mod_cast hhalf
    · rw [hdistance, hunit, ← mul_assoc, mul_left_inj' hpos.ne'] at h
      exact_mod_cast h

theorem NearestEven.neg {x r : ℚ} {e : ℤ} (h : NearestEven x e r) : NearestEven (-x) e (-r) := by
  obtain ⟨n, hr, hnear, heven⟩ := h
  have hdistance : |-x - -r| = |x - r| := by rw [neg_sub_neg, abs_sub_comm]
  refine ⟨-n, ?_, hdistance ▸ hnear, fun hhalf => ?_⟩
  · rw [hr]
    push_cast
    ring
  · rw [hdistance] at hhalf
    exact (heven hhalf).neg

/-- The sign takes no part in rounding. -/
theorem nearestEven_value_roundedAt (d : Decimal) (e : ℤ) : NearestEven d.value e (d.roundedAt e).value := by
  have hsize := nearestEven_roundedAt d e
  unfold value
  rw [negative_roundedAt]
  split
  · exact hsize.neg
  · exact hsize

/-- Rounding keeps the order of numbers. -/
theorem NearestEven.le {x y r s : ℚ} {e : ℤ} (hr : NearestEven x e r) (hs : NearestEven y e s) (h : x ≤ y) :
    r ≤ s := by
  obtain ⟨n, rfl, hnear, heven⟩ := hr
  obtain ⟨m, rfl, hnear', heven'⟩ := hs
  have hunit : (0 : ℚ) < 10 ^ e := by positivity
  by_contra hlt
  have hstep : m + 1 ≤ n := by
    have hcast := (mul_lt_mul_iff_left₀ hunit).mp (not_le.mp hlt)
    exact_mod_cast hcast
  have hmultiple : ((m : ℚ) + 1) * 10 ^ e ≤ n * 10 ^ e :=
    mul_le_mul_of_nonneg_right (by exact_mod_cast hstep) hunit.le
  have hx := neg_le_abs (x - n * 10 ^ e)
  have hy := le_abs_self (y - m * 10 ^ e)
  -- then both numbers lie in the middle of two neighbours, of which one is odd
  have hodd : Even (m + 1) := by
    have hnext : n = m + 1 := by
      have hle : (n : ℚ) * 10 ^ e ≤ (m + 1) * 10 ^ e := by linarith
      have hcast := (mul_le_mul_iff_left₀ hunit).mp hle
      exact le_antisymm (by exact_mod_cast hcast) hstep
    exact hnext ▸ heven (le_antisymm hnear (by linarith))
  exact Int.even_add_one.mp hodd (heven' (le_antisymm hnear' (by linarith)))

end MessageFormat.Decimal
