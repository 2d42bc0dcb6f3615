import MessageFormat.Proofs.Decimal.Nearest
import MessageFormat.Proofs.Decimal.Places
import MessageFormat.Proofs.Decimal.Sum

/-!
Whole numbers: the quotients that are found, and the integers that are nearest.
-/

set_option autoImplicit false

namespace MessageFormat.Decimal

variable {a b d : Decimal} {n precision : Nat} {x : ℚ} {e : ℤ}

theorem value_eq_size (h : 0 ≤ d.value) : d.value = d.size := by rw [← abs_value, abs_of_nonneg h]

theorem fits_whole (negative : Bool) (h : n < 10 ^ defaultPrecision) :
    (⟨negative, n, 0⟩ : Decimal).Fits := by
  have hcount : (⟨negative, n, 0⟩ : Decimal).digitCount ≤ defaultPrecision :=
    (digitCount_le_iff (by decide)).mpr h
  refine ⟨(tinyExponent_neg _).le, ?_, hcount⟩
  unfold adjusted maxExponent defaultPrecision at *
  dsimp only
  omega

theorem integerPart_whole (negative : Bool) (n : Nat) : integerPart ⟨negative, n, 0⟩ = n := by
  have hexact := size_of_nonneg (d := ⟨negative, n, 0⟩) le_rfl
  rw [size, zpow_zero, mul_one] at hexact
  exact_mod_cast hexact.symm

/-- Of one exponent there is one decimal of each size. -/
theorem Fits.of_size_eq (h : b.Fits precision) (hexponent : a.exponent = b.exponent) (hsize : a.size = b.size) :
    a.Fits precision := by
  have hcoefficient : a.coefficient = b.coefficient := by
    rw [size, size, hexponent, mul_left_inj' (by positivity)] at hsize
    exact_mod_cast hsize
  unfold Fits adjusted digitCount at *
  rwa [hexponent, hcoefficient]

/-- What has few digits, all of them in range, and is not too large, has a decimal that fits. -/
theorem representable_of_digits (hn : n < 10 ^ defaultPrecision) (he : tinyExponent defaultPrecision ≤ e)
    (hx : x = n * 10 ^ e) (hlt : x < 10 ^ maxExponent) : Representable x := by
  rcases Nat.eq_zero_or_pos n with rfl | hpos
  · refine ⟨zero, by decide, ?_⟩
    rw [hx]
    simp [zero, ofNat, size]
  · have hz : (⟨false, n, e⟩ : Decimal).isZero = false := by simpa [isZero] using hpos.ne'
    have hfirst : (10 : ℚ) ^ (⟨false, n, e⟩ : Decimal).adjusted < 10 ^ maxExponent :=
      (size_bounds hz).1.trans_lt (by rwa [size, ← hx])
    rw [zpow_lt_zpow_iff_right₀ (by norm_num)] at hfirst
    exact ⟨⟨false, n, e⟩, ⟨he, hfirst.le, (digitCount_le_iff (by decide)).mpr hn⟩, hx.symm⟩

/-- A whole quotient of no more digits than the precision is found as it is. -/
theorem exists_quotient (hz : b.isZero = false) (h : a.size < 10 ^ defaultPrecision * b.size) :
    ∃ q r, a.quotient b = .ok ⟨a.negative != b.negative, q, 0⟩ ∧ q < 10 ^ defaultPrecision ∧ Divides a b q r := by
  rcases divideWhole_spec (a := a) hz with ⟨hle, -⟩ | ⟨-, q, r, hok, hdivides⟩
  · exact absurd h (not_lt.mpr hle)
  · have hq : q < 10 ^ defaultPrecision := by
      have hle : q * b.size ≤ a.size := by
        rw [hdivides.size_eq]
        exact le_add_of_nonneg_right r.size_nonneg
      have hlt := (mul_lt_mul_iff_left₀ (size_pos hz)).mp (hle.trans_lt h)
      exact_mod_cast hlt
    refine ⟨q, r, ?_, hq, hdivides⟩
    rw [quotient, hok]
    exact (fits_whole _ hq).finish_eq defaultPrecision_pos

/-- Where a multiple is subtracted, what remains is found as it is. -/
theorem Divides.exists_subtract {q unit : Nat} {r : Decimal} (h : Divides a (ofNat unit) q r) (ha : a.Fits)
    (hunit : (ofNat unit).Fits) (hz : (ofNat unit).isZero = false) (hnonneg : 0 ≤ a.value) :
    ∃ rest, a.subtract (ofNat (q * unit)) = .ok rest ∧ rest.value = r.size ∧
      rest.exponent = min a.exponent 0 ∧ rest.Fits := by
  have hvalue : (a.difference (ofNat (q * unit))).value = r.size := by
    rw [value_difference, value_ofNat, value_eq_size hnonneg, h.size_eq, size_ofNat]
    push_cast
    ring
  have hexponent : (a.difference (ofNat (q * unit))).exponent = min a.exponent 0 := exponent_difference _ _
  have hfits : (a.difference (ofNat (q * unit))).Fits := by
    refine (h.fits ha hunit hz).of_size_eq ?_ ?_
    · rw [hexponent, h.exponent]
      rfl
    · rw [← value_eq_size (hvalue.symm ▸ r.size_nonneg), hvalue]
  exact ⟨_, (subtract_eq _ _).trans (hfits.finish_eq defaultPrecision_pos), hvalue, hexponent, hfits⟩

/-! The nearest integer. -/

theorem nearestEven_toIntegral (d : Decimal) : NearestEven d.size 0 d.toIntegral.integerPart := by
  have hround : d.toIntegral.size = (d.roundedAt 0).size := by
    unfold toIntegral roundedAt
    split
    · rename_i h
      rw [roundTo, if_pos h, size_lowerTo]
    · rfl
  have hexponent : 0 ≤ d.toIntegral.exponent := by
    unfold toIntegral
    rcases le_or_gt 0 d.exponent with h | h
    · rwa [roundTo, if_pos h]
    · exact (exponent_roundTo h).ge
  rw [← size_of_nonneg hexponent, hround]
  exact nearestEven_roundedAt d 0

/-- Zero is nearest to what is less than a half. -/
theorem nearestEven_natCast_iff (hx : 0 ≤ x) (hhalf : x < 1 / 2) : NearestEven x 0 n ↔ n = 0 := by
  constructor
  · rintro ⟨-, -, hnear, -⟩
    have hbelow := neg_le_abs (x - n)
    have hsmall : (n : ℚ) < 1 := by
      rw [zpow_zero] at hnear
      linarith
    exact Nat.lt_one_iff.mp (by exact_mod_cast hsmall)
  · rintro rfl
    refine ⟨0, by simp, ?_, fun htie => ?_⟩
    · rw [Nat.cast_zero, sub_zero, abs_of_nonneg hx, zpow_zero]
      linarith
    · rw [Nat.cast_zero, sub_zero, abs_of_nonneg hx, zpow_zero] at htie
      linarith

end MessageFormat.Decimal
