import MessageFormat.Proofs.Decimal.Nearest
import MessageFormat.Proofs.Number.Width

/-!
Rounding to places within the range of exponents. The precision has room for all digits that are kept and for a
carry, whatever the number of digits before, so only the range decides whether there is a rounded number.
-/

set_option autoImplicit false

namespace MessageFormat.Number

open Decimal

variable {value r : Decimal} {places : ℤ} {spec : Spec} {magnitude : Decimal} {least most : Nat} {s : Signal}

/-- The exponent of the last place is one that numbers of the precision can have, and the rounded number is not past
the greatest exponent. -/
structure InRange (value : Decimal) (places : ℤ) : Prop where
  tiny_le : tinyExponent (roundingPrecision value places) ≤ -places
  le_max : -places ≤ maxExponent
  below : value.size + 1 / 2 * 10 ^ (-places) < 10 ^ (maxExponent + 1)

theorem InRange.roundPlaces_eq (h : InRange value places) :
    roundPlaces value places = .ok (value.roundedAt (-places)) :=
  roundPlaces_eq_ok h.tiny_le h.le_max ((adjusted_roundedAt_le_iff h.le_max value).mpr h.below)

/-- In range there is a rounded number with as many places, and nowhere else. -/
theorem inRange_iff : InRange value places ↔ ∃ r, roundPlaces value places = .ok r ∧ r.exponent = -places := by
  constructor
  · intro h
    exact ⟨_, h.roundPlaces_eq, exponent_roundedAt value _⟩
  · rintro ⟨r, hr, hexponent⟩
    obtain ⟨hround, hadjusted⟩ := of_roundPlaces hr
    have hlast := exponent_roundedAt value (max (tinyExponent (roundingPrecision value places)) (-places))
    rw [← hround, hexponent] at hlast
    have hmax : -places ≤ maxExponent := by
      have hdigits := r.digitCount_pos
      unfold adjusted at hadjusted
      omega
    rw [hround, ← hlast] at hadjusted
    exact ⟨by omega, hmax, (adjusted_roundedAt_le_iff hmax value).mp hadjusted⟩

/-! Where a magnitude cannot be rounded to its limits. -/

/-- Significant digits are refused only where the last of them would be carried past the range. -/
theorem roundSignificant_eq_error_iff (h : value.Fits) (hmost : 0 < most) :
    roundSignificant value least most = .error s ↔ s = .invalidOperation ∧
      10 ^ (maxExponent + 1) ≤ value.size + 1 / 2 * 10 ^ (value.adjusted + 1 - most) := by
  obtain ⟨hexponent, hadjusted, -⟩ := h
  cases hz : value.isZero with
  | true =>
    have hplace : value.adjusted + 1 - most ≤ maxExponent := by omega
    have hbelow := (adjusted_roundedAt_le_iff hplace value).mp ((adjusted_roundedAt_of_isZero hz).2.trans_le hplace)
    rw [roundSignificant, if_pos hz]
    simp only [reduceCtorEq, false_iff, not_and, not_le]
    exact fun _ => hbelow
  | false =>
    have hplaces : -((most : ℤ) - value.adjusted - 1) = value.adjusted + 1 - most := by omega
    have hround : roundPlaces value (most - value.adjusted - 1) = .error s ↔ _ :=
      roundPlaces_eq_error_iff hexponent (by omega)
    rw [hplaces] at hround
    rw [← hround]
    rcases roundSignificant_eq hz least most with ⟨s', hs, herror⟩ | ⟨q, r, hq, hr, -⟩
    · rw [hs, herror, Except.error.injEq, Except.error.injEq]
    · rw [hq, hr]
      simp only [reduceCtorEq]

theorem limitDigits_eq_error_iff (h : magnitude.Fits) :
    limitDigits spec magnitude = .error s ↔ s = .invalidOperation ∧ spec.form.isScientific = false ∧
      ∃ e, spec.lastPlace (magnitude.adjusted + 1) = some e ∧
        10 ^ (maxExponent + 1) ≤ magnitude.size + 1 / 2 * 10 ^ e := by
  have hlimited {α : Type} (x : Except Signal α) (f : α → Limited) :
      (x >>= fun a => pure (f a)) = .error s ↔ x = .error s := by
    cases x <;> simp [Bind.bind, Except.bind, Pure.pure, Except.pure]
  unfold limitDigits Spec.lastPlace
  cases spec.form.isScientific with
  | true => simp
  | false =>
    cases spec.maxSignificant with
    | some most =>
      simp only [Bool.false_eq_true, if_false, hlimited, true_and, Option.some.injEq, exists_eq_left']
      exact roundSignificant_eq_error_iff h (by omega)
    | none =>
      cases spec.maxFraction with
      | some most =>
        simp only [Bool.false_eq_true, if_false, hlimited, true_and, Option.some.injEq, exists_eq_left']
        exact roundPlaces_eq_error_iff h.1 (by unfold maxExponent; omega)
      | none => simp

/-- Rounding to places, which may be negative, for a decimal with any digits. There is a result with just so many
places exactly where the exponent of the last place and the rounded number are in range. In range it is the multiple
of the unit that is nearest to the value, an even one where two are nearest, and the order of values is kept. So the
magnitude of a number that is scaled and cut is left as it is only where the number that it would be rounded to is
past the greatest exponent. -/
theorem roundPlaces_rounds :
    (∀ (value : Decimal) (places : ℤ),
      InRange value places ↔ ∃ r, roundPlaces value places = .ok r ∧ r.exponent = -places) ∧
    (∀ (value other r r' : Decimal) (places : ℤ), InRange value places → InRange other places →
      roundPlaces value places = .ok r → roundPlaces other places = .ok r' →
      NearestEven value.value (-places) r.value ∧ (value.value ≤ other.value → r.value ≤ r'.value)) ∧
    ∀ (spec : Spec) (number scaled magnitude : Decimal) (s : Signal),
      Number.scaled spec number = .ok scaled → truncated spec scaled.magnitude = .ok magnitude →
      (limitDigits spec magnitude = .error s ↔ s = .invalidOperation ∧ spec.form.isScientific = false ∧
        ∃ e, spec.lastPlace (magnitude.adjusted + 1) = some e ∧
          10 ^ (maxExponent + 1) ≤ magnitude.size + 1 / 2 * 10 ^ e) := by
  refine ⟨fun value places => inRange_iff, fun value other r r' places h h' hr hr' => ?_,
    fun spec number scaled magnitude s hs hcut =>
      limitDigits_eq_error_iff (fits_of_truncated (fits_of_scaled hs).magnitude hcut)⟩
  obtain rfl : value.roundedAt (-places) = r := Except.ok.inj (h.roundPlaces_eq.symm.trans hr)
  obtain rfl : other.roundedAt (-places) = r' := Except.ok.inj (h'.roundPlaces_eq.symm.trans hr')
  have hnear := nearestEven_value_roundedAt value (-places)
  exact ⟨hnear, hnear.le (nearestEven_value_roundedAt other (-places))⟩

/-- A tie of 31 digits is carried to the next power of ten, and the greatest number of two digits has none to be
carried to. -/
theorem roundPlaces_rounds_carry : ∃ value r : Decimal,
    value = ⟨true, 9999999999999999999999999999995, 0⟩ ∧ r = ⟨true, 10 ^ 30, 1⟩ ∧
    InRange value (-1) ∧ roundPlaces value (-1) = .ok r ∧ NearestEven value.value 1 r.value ∧
    r.value ≤ (⟨false, 0, 1⟩ : Decimal).value ∧
    limitDigits { maxSignificant := some 1 } ⟨false, 99, maxExponent - 1⟩ = .error .invalidOperation := by
  obtain ⟨hrange, hround, hrefused⟩ := roundPlaces_rounds
  let value : Decimal := ⟨true, 9999999999999999999999999999995, 0⟩
  have hvalue : roundPlaces value (-1) = .ok ⟨true, 10 ^ 30, 1⟩ := by decide +kernel
  have hsmall : roundPlaces ⟨false, 5, 0⟩ (-1) = .ok ⟨false, 0, 1⟩ := by decide +kernel
  have hin := (hrange _ _).mpr ⟨_, hvalue, rfl⟩
  obtain ⟨hnear, hle⟩ := hround _ _ _ _ _ hin ((hrange _ _).mpr ⟨_, hsmall, rfl⟩) hvalue hsmall
  refine ⟨value, _, rfl, rfl, hin, hvalue, hnear, hle ?_, ?_⟩
  · norm_num [value, Decimal.value, Decimal.size]
  · have hpower (e : ℤ) : (10 : ℚ) ^ (e + 2) ≤ (99 : ℕ) * 10 ^ e + 1 / 2 * 10 ^ (e + 1) := by
      have hpos : (0 : ℚ) < 10 ^ e := by positivity
      rw [zpow_add₀ (by norm_num), zpow_add_one₀ (by norm_num)]
      norm_num
      linarith
    let number : Decimal := ⟨false, 99, maxExponent - 1⟩
    exact (hrefused { maxSignificant := some 1 } number number number _ (by decide +kernel) rfl).mpr
      ⟨rfl, rfl, maxExponent, by decide +kernel, hpower (maxExponent - 1)⟩

end MessageFormat.Number
