import Mathlib.Tactic.NormNum
import MessageFormat.Proofs.Decimal.Text
import MessageFormat.Proofs.Decimal.Value

/-!
The places of a decimal. Its magnitude is the integer part and the digits after the point, and there are as
many of these as the exponent is below zero.
-/

set_option autoImplicit false

namespace MessageFormat.Decimal

open Text

variable {d : Decimal}

/-- A decimal has as many places as its exponent is below zero. -/
theorem length_positional_snd (d : Decimal) : (d.positional.2.length : ℤ) = max 0 (-d.exponent) := by
  by_cases he : 0 ≤ d.exponent
  · rw [positional_snd_of_nonneg he, List.length_nil]
    omega
  · obtain ⟨-, -, -, hlength⟩ := positional_eq (d := d) (by omega)
    omega

theorem ascii_of_positional_snd (d : Decimal) : ∀ c ∈ d.positional.2, c.isDigit = true := by
  by_cases he : 0 ≤ d.exponent
  · simp [positional_snd_of_nonneg he]
  · exact fun c hc => ascii_of_positional (d := d) (by omega) c (List.mem_append_right _ hc)

/-- The coefficient of a decimal with places, cut at the point. -/
theorem coefficient_eq (h : d.exponent ≤ 0) :
    d.coefficient = d.integerPart * 10 ^ d.positional.2.length + digitsValue d.positional.2 := by
  obtain ⟨-, -, -, hlength⟩ := positional_eq h
  have hcut := digitsValue_positional h
  rw [digitsValue_append] at hcut
  have hlt := digitsValue_lt d.positional.2
  suffices hwhole : d.integerPart = digitsValue d.positional.1 by rw [hwhole, hcut]
  have hdiv : d.coefficient / 10 ^ d.exponent.natAbs = digitsValue d.positional.1 := by
    rw [← hlength, ← hcut, Nat.mul_comm, Nat.mul_add_div (Nat.pos_of_ne_zero (by simp)),
      Nat.div_eq_of_lt hlt, Nat.add_zero]
  rw [← hdiv]
  unfold integerPart
  split
  · rename_i hz
    rw [isZero_iff.mp hz, Nat.zero_div]
  · split
    · rename_i he
      have hzero : d.exponent = 0 := by omega
      simp [hzero]
    · split
      · rename_i hshort
        have hlow : d.coefficient < 10 ^ d.exponent.natAbs :=
          d.coefficient_lt.trans_le (Nat.pow_le_pow_right (by decide) hshort.le)
        rw [Nat.div_eq_of_lt hlow]
      · rfl

theorem size_of_nonneg (h : 0 ≤ d.exponent) : d.size = d.integerPart := by
  unfold integerPart size
  split
  · rename_i hz
    simp [isZero_iff.mp hz]
  · have hpow : (10 : ℚ) ^ d.exponent = 10 ^ d.exponent.toNat := by
      rw [← zpow_natCast, Int.toNat_of_nonneg h]
    rw [hpow, Nat.pow_eq]
    push_cast
    rfl

/-- The integer part and the places are all of a magnitude. -/
theorem size_mul_places (d : Decimal) : d.size * 10 ^ d.positional.2.length =
    d.integerPart * 10 ^ d.positional.2.length + digitsValue d.positional.2 := by
  by_cases he : d.exponent ≤ 0
  · obtain ⟨-, -, -, hlength⟩ := positional_eq he
    have hcoefficient : d.size * 10 ^ d.positional.2.length = d.coefficient := by
      have hpow : (10 : ℚ) ^ d.exponent * 10 ^ d.positional.2.length = 1 := by
        rw [← zpow_natCast, ← zpow_add₀ (by norm_num), hlength,
          show d.exponent + (d.exponent.natAbs : ℤ) = 0 by omega, zpow_zero]
      rw [size, mul_assoc, hpow, mul_one]
    rw [hcoefficient]
    exact_mod_cast coefficient_eq he
  · have hzero : digitsValue [] = 0 := rfl
    have hle : 0 ≤ d.exponent := (not_le.mp he).le
    rw [positional_snd_of_nonneg hle, hzero, size_of_nonneg hle]
    simp

end MessageFormat.Decimal
