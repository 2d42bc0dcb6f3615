import Mathlib.Algebra.Order.Floor.Semiring
import Mathlib.Data.Rat.Floor
import MessageFormat.Proofs.Decimal.Nearest
import MessageFormat.Proofs.Number.Rounding

/-!
Rounding to significant digits. It is the half-even rounding at the place of the last digit, whatever the number
of digits before, and the fraction digits that come with it show all of it and no fewer digits than asked for.
-/

set_option autoImplicit false

namespace MessageFormat.Number

open Decimal Text

/-- `r` is `x` rounded half to even to its first `n` digits. -/
def RoundsToDigits (x : ℚ) (n : ℕ) (r : ℚ) : Prop :=
  ∃ k : ℤ, 10 ^ k ≤ x ∧ x < 10 ^ (k + 1) ∧ NearestEven x (k + 1 - n) r

/-- What is written of a positive number with so many fraction digits, from its first digit on. -/
def writtenDigits (x : ℚ) (fraction : Nat) : List Char := natDigits ⌊x * 10 ^ fraction⌋₊

variable {value v : Decimal} {least most places : Nat} {e : ℤ}

/-- The precision has one digit more than are kept, for a carry. -/
theorem roundingPrecision_significant (value : Decimal) (most : Nat) :
    roundingPrecision value (most - value.adjusted - 1) = max defaultPrecision (most + 1) := by
  unfold roundingPrecision
  congr 1
  omega

/-- A digit that is kept is not rounded to zero. -/
theorem isZero_roundedAt (hz : value.isZero = false) (he : e ≤ value.adjusted) :
    (value.roundedAt e).isZero = false := by
  obtain ⟨-, -, hhalf, -⟩ := nearestEven_roundedAt value e
  have hunit : (10 : ℚ) ^ e ≤ 10 ^ value.adjusted := zpow_le_zpow_right₀ (by norm_num) he
  have hfirst := (size_bounds hz).1
  have hpos : (0 : ℚ) < 10 ^ e := by positivity
  have habove := le_abs_self (value.size - (value.roundedAt e).size)
  by_contra hzero
  have hnone : (value.roundedAt e).size = 0 := size_of_isZero (by simpa using hzero)
  rw [hnone] at hhalf habove
  linarith

/-- Where the last digit and the rounded number are in range, rounding to digits is rounding at the place of the
last one. -/
theorem exists_roundSignificant_at (least : Nat) (hz : value.isZero = false) (hmost : 0 < most)
    (hlow : tinyExponent (max defaultPrecision (most + 1)) ≤ value.adjusted + 1 - most)
    (hhigh : value.size + 1 / 2 * 10 ^ (value.adjusted + 1 - most) < 10 ^ (maxExponent + 1)) :
    ∃ v : Decimal, v.size = (value.roundedAt (value.adjusted + 1 - most)).size ∧ v.negative = value.negative ∧
      roundSignificant value least most = .ok ⟨v, (least - v.adjusted - 1 : ℤ).toNat,
        max (least - v.adjusted - 1 : ℤ).toNat (most - value.adjusted - 1 : ℤ).toNat⟩ := by
  have hplace : -((most : ℤ) - value.adjusted - 1) = value.adjusted + 1 - most := by omega
  have hpos : (0 : ℚ) < 10 ^ (value.adjusted + 1 - most) := by positivity
  have hfirst : value.adjusted ≤ maxExponent := by
    have hlt : (10 : ℚ) ^ value.adjusted < 10 ^ (maxExponent + 1) := (size_bounds hz).1.trans_lt (by linarith)
    rw [zpow_lt_zpow_iff_right₀ (by norm_num)] at hlt
    omega
  have hround : roundPlaces value (most - value.adjusted - 1) =
      .ok (value.roundedAt (-(most - value.adjusted - 1))) :=
    roundPlaces_eq_ok (by rwa [hplace, roundingPrecision_significant]) (by omega)
      (by rw [hplace]; exact (adjusted_roundedAt_le_iff (by omega) value).mpr hhigh)
  rw [hplace] at hround
  obtain ⟨v, hsize, hsign, -, hrounded⟩ := exists_roundSignificant hz least hround
  exact ⟨v, hsize, hsign.trans (negative_roundedAt _ _), hrounded⟩

/-- A multiple of a unit is whole when its places are shown. -/
theorem NearestEven.whole {x r : ℚ} (h : NearestEven x e r) {shown : Nat} (hshown : -e ≤ shown) :
    ∃ n : ℤ, r * 10 ^ shown = n := by
  obtain ⟨n, rfl, -⟩ := h
  have hsum : e + shown = ((e + shown).toNat : ℤ) := by omega
  refine ⟨n * 10 ^ (e + shown).toNat, ?_⟩
  rw [mul_assoc, ← zpow_natCast, ← zpow_add₀ (by norm_num), hsum, zpow_natCast]
  push_cast
  rfl

/-- With these fraction digits so many digits are written. -/
theorem le_length_writtenDigits (hz : v.isZero = false) (hshown : (least : ℤ) ≤ v.adjusted + 1 + places) :
    least ≤ (writtenDigits v.size places).length := by
  rcases Nat.eq_zero_or_pos (least - 1) with hone | hmore
  · have hpos : 0 < (writtenDigits v.size places).length := Nat.length_toDigits_pos
    omega
  · have hfirst := (size_bounds hz).1
    have hpower : (10 : ℚ) ^ (least - 1) ≤ v.size * 10 ^ places := by
      have hmono : (10 : ℚ) ^ ((least - 1 : ℕ) : ℤ) ≤ 10 ^ (v.adjusted + places) :=
        zpow_le_zpow_right₀ (by norm_num) (by omega)
      rw [zpow_natCast, zpow_add₀ (by norm_num), zpow_natCast] at hmono
      exact hmono.trans (mul_le_mul_of_nonneg_right hfirst (by positivity))
    have hfloor : 10 ^ (least - 1) ≤ ⌊v.size * 10 ^ places⌋₊ := Nat.le_floor (by exact_mod_cast hpower)
    have hlong : ¬ (writtenDigits v.size places).length ≤ least - 1 := by
      rw [writtenDigits, natDigits, Nat.length_toDigits_le_iff (by decide) hmore]
      exact Nat.not_lt.mpr hfloor
    omega

end MessageFormat.Number
