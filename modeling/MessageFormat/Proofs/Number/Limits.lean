import MessageFormat.Number.Rendering
import MessageFormat.Proofs.Number.Rounding

/-!
The steps before a magnitude is rendered. Scaling can overflow and cutting the integer part can have too
many digits to do; limiting the digits always gives a magnitude.
-/

set_option autoImplicit false

namespace MessageFormat.Number

open Decimal

/-! Scaling. -/

/-- What a value is multiplied by after its scale. -/
def Spec.factor (spec : Spec) : Nat :=
  if spec.percent && spec.scale.sameValue Decimal.one then 100
  else if spec.permille then 1000
  else 1

/-- The rounding of a product changes nothing about whether a further power of ten makes it overflow. -/
theorem multiply_multiply_eq_error_iff {a b r : Decimal} {n : Nat} {s : Signal}
    (hn : n ≤ 3) (h : a.multiply b = .ok r) :
    r.multiply (Decimal.ofNat (10 ^ n)) = .error s ↔
      s = .overflow ∧ overflowBound defaultPrecision ≤ a.size * b.size * (10 ^ n : ℕ) := by
  have hpos : (0 : ℚ) < 10 ^ n := by positivity
  have hbound : overflowBound defaultPrecision =
      threshold defaultPrecision (maxExponent + 1 - defaultPrecision - n) * 10 ^ n := by
    rw [← threshold_add, overflowBound]
    congr 1
    omega
  have hlow : tinyExponent defaultPrecision ≤ maxExponent + 1 - defaultPrecision - n := by
    unfold tinyExponent minExponent maxExponent
    omega
  rw [multiply_eq_error_iff, size_ofNat, hbound, Nat.cast_pow, Nat.cast_ofNat,
    mul_le_mul_iff_left₀ hpos, mul_le_mul_iff_left₀ hpos, threshold_le_multiply_iff h hlow]

theorem scaled_eq_error_iff {spec : Spec} {number : Decimal} {s : Signal} :
    scaled spec number = .error s ↔ s = .overflow ∧
      overflowBound defaultPrecision ≤ number.size * spec.scale.size * spec.factor := by
  have hone : (1 : ℚ) ≤ spec.factor := by
    unfold Spec.factor
    split_ifs <;> norm_num
  have hnonneg : 0 ≤ number.size * spec.scale.size := mul_nonneg number.size_nonneg spec.scale.size_nonneg
  unfold scaled
  cases h : number.multiply spec.scale with
  | error s' =>
    obtain ⟨rfl, hbound⟩ := multiply_eq_error_iff.mp h
    have hlarger := hbound.trans (le_mul_of_one_le_right hnonneg hone)
    simp [Bind.bind, Except.bind, hlarger, eq_comm]
  | ok r =>
    have hfits : ¬ overflowBound defaultPrecision ≤ number.size * spec.scale.size := fun hbound => by
      rw [multiply_eq_error_iff.mpr ⟨rfl, hbound⟩] at h
      cases h
    simp only [Bind.bind, Except.bind, Spec.factor]
    split
    · exact multiply_multiply_eq_error_iff (n := 2) (by decide) h
    · split
      · exact multiply_multiply_eq_error_iff (n := 3) (by decide) h
      · simp [Pure.pure, Except.pure, hfits]

theorem fits_of_multiply {a b r : Decimal} (h : a.multiply b = .ok r) : r.Fits :=
  fits_of_finish defaultPrecision_pos h

theorem fits_of_scaled {spec : Spec} {number r : Decimal} (h : scaled spec number = .ok r) : r.Fits := by
  unfold scaled at h
  cases hm : number.multiply spec.scale with
  | error s =>
    rw [hm] at h
    cases h
  | ok r' =>
    simp only [hm, Bind.bind, Except.bind] at h
    split at h
    · exact fits_of_multiply h
    · split at h
      · exact fits_of_multiply h
      · rw [← Except.ok.inj h]
        exact fits_of_multiply hm

/-! Cutting the integer part. -/

theorem truncated_eq_error_iff {spec : Spec} {magnitude : Decimal} :
    (∃ s, truncated spec magnitude = .error s) ↔ ∃ most, spec.maxInteger = some most ∧
      (maxExponent < most ∨ 10 ^ (defaultPrecision + most) ≤ magnitude.size) := by
  unfold truncated
  cases hmost : spec.maxInteger with
  | none => simp
  | some most =>
    simp only [Option.some.injEq, exists_eq_left']
    by_cases hle : (most : ℤ) ≤ maxExponent
    · obtain ⟨b, hb, hsize, hz, -⟩ := powerOfTen_eq_ok hle
      simp only [hb, Bind.bind, Except.bind, remainder_powerOfTen_eq_error_iff hle hsize hz]
      simp [hle]
    · have hlt := Int.not_le.mp hle
      simp [powerOfTen_eq_error hlt, Bind.bind, Except.bind, hlt]

theorem fits_of_truncated {spec : Spec} {magnitude r : Decimal} (hm : magnitude.Fits)
    (h : truncated spec magnitude = .ok r) : r.Fits := by
  unfold truncated at h
  split at h
  · rwa [← Except.ok.inj h]
  · rename_i most _
    cases hb : powerOfTen most with
    | error s =>
      rw [hb] at h
      cases h
    | ok b =>
      simp only [hb, Bind.bind, Except.bind, remainder] at h
      split at h
      · cases h
      · exact fits_of_finish defaultPrecision_pos h

/-! Limiting the digits. -/

theorem limitDigits_spec (spec : Spec) {magnitude : Decimal} (h : magnitude.adjusted ≤ maxExponent) :
    limitDigits spec magnitude = .error .invalidOperation ∨
      ∃ l, limitDigits spec magnitude = .ok l ∧ l.magnitude.adjusted ≤ maxExponent := by
  unfold limitDigits
  split
  · exact .inr ⟨_, rfl, h⟩
  split
  · rename_i most _
    rcases roundSignificant_spec magnitude (max 1 (spec.minSignificant.getD 1))
        (max 1 most) (by omega) h with
      herror | ⟨r, hr, hle⟩
    · exact .inl (by rw [herror]; rfl)
    · exact .inr ⟨_, by rw [hr]; rfl, hle⟩
  · rename_i most _ _
    have hplaces : -(most : ℤ) ≤ maxExponent := by
      unfold maxExponent
      omega
    rcases roundPlaces_spec magnitude most hplaces with herror | ⟨r, hr, hle⟩
    · exact .inl (by rw [herror]; rfl)
    · exact .inr ⟨_, by rw [hr]; rfl, hle⟩
  · exact .inr ⟨_, rfl, h⟩

/-- What cannot be rounded is taken as it is, so there always is a magnitude, within the exponent range. -/
theorem limited_spec (spec : Spec) {magnitude : Decimal} (h : magnitude.adjusted ≤ maxExponent) :
    ∃ l, limited spec magnitude = .ok l ∧ l.magnitude.adjusted ≤ maxExponent := by
  rcases limitDigits_spec spec h with herror | ⟨l, hl, hle⟩
  · exact ⟨_, by simp [limited, herror]; rfl, h⟩
  · exact ⟨l, by simp [limited, hl], hle⟩

/-! Scientific notation. -/

/-- The magnitude with its point moved by its exponent. -/
def mantissaOf (spec : Spec) (magnitude : Decimal) : Decimal :=
  { magnitude with exponent := magnitude.exponent + -exponentOf spec magnitude }

theorem mantissaOf_of_isZero (spec : Spec) {magnitude : Decimal} (h : magnitude.isZero = true) :
    exponentOf spec magnitude = 0 ∧ mantissaOf spec magnitude = magnitude := by
  have hexponent : exponentOf spec magnitude = 0 := by simp [exponentOf, h]
  exact ⟨hexponent, by simp [mantissaOf, hexponent]⟩

/-- The first digit of a mantissa stands right before the point, or at most two places before that. -/
theorem adjusted_mantissaOf (spec : Spec) {magnitude : Decimal} (h : magnitude.isZero = false) :
    (mantissaOf spec magnitude).adjusted =
      if spec.form = .engineering then magnitude.adjusted % 3 else 0 := by
  have hmoved : (mantissaOf spec magnitude).adjusted = magnitude.adjusted - exponentOf spec magnitude := by
    simp only [mantissaOf, adjusted, digitCount]
    omega
  rw [hmoved, exponentOf, h, if_neg Bool.false_ne_true]
  split <;> omega

theorem adjusted_mantissaOf_bounds (spec : Spec) {magnitude : Decimal} (h : magnitude.isZero = false) :
    0 ≤ (mantissaOf spec magnitude).adjusted ∧ (mantissaOf spec magnitude).adjusted ≤ 2 := by
  rw [adjusted_mantissaOf spec h]
  split <;> omega

/-- The mantissa is small, so finding it does not overflow. -/
theorem scaleb_exponentOf (spec : Spec) {magnitude : Decimal} {s : Signal}
    (h : magnitude.scaleb (-exponentOf spec magnitude) = .error s) : s = .invalidOperation := by
  unfold scaleb at h
  split at h
  · exact (Except.error.inj h).symm
  · obtain ⟨-, hbound⟩ := (finish_eq_error_iff defaultPrecision_pos).mp h
    refine absurd hbound (not_le.mpr ?_)
    cases hz : magnitude.isZero with
    | true =>
      have hz' : (mantissaOf spec magnitude).isZero = true := hz
      exact (size_of_isZero hz').trans_lt (threshold_pos _ _)
    | false =>
      refine size_lt_overflowBound defaultPrecision_pos ((adjusted_mantissaOf_bounds spec hz).2.trans_lt ?_)
      decide

theorem fits_mantissaOf (spec : Spec) {magnitude : Decimal} (h : magnitude.Fits) :
    (mantissaOf spec magnitude).Fits := by
  cases hz : magnitude.isZero with
  | true => rwa [(mantissaOf_of_isZero spec hz).2]
  | false =>
    obtain ⟨hlow, hhigh⟩ := adjusted_mantissaOf_bounds spec hz
    have hcount : (mantissaOf spec magnitude).digitCount ≤ defaultPrecision := h.2.2
    refine ⟨?_, ?_, hcount⟩
    · unfold adjusted at hlow
      unfold tinyExponent minExponent defaultPrecision at *
      omega
    · unfold maxExponent
      omega

/-- The mantissa of a magnitude that fits is found, with no digit lost. -/
theorem scaleb_mantissaOf (spec : Spec) {magnitude : Decimal} (h : magnitude.Fits) :
    magnitude.scaleb (-exponentOf spec magnitude) = .ok (mantissaOf spec magnitude) := by
  have hbound : (exponentOf spec magnitude).natAbs ≤ 2 * (maxExponent + defaultPrecision) := by
    obtain ⟨hexponent, hadjusted, -⟩ := h
    have hdigits : 0 < magnitude.digitCount := Nat.length_toDigits_pos
    unfold tinyExponent minExponent at hexponent
    unfold adjusted maxExponent at hadjusted
    unfold exponentOf adjusted maxExponent defaultPrecision at *
    dsimp only
    split <;> split <;> omega
  rw [scaleb, if_neg (by omega)]
  exact (fits_mantissaOf spec h).finish_eq defaultPrecision_pos

end MessageFormat.Number
