import MessageFormat.Proofs.Decimal.Kept

/-!
Signs and magnitudes of results. Rounding, products and scaling act on magnitudes, and a sign takes no part in
them.
-/

set_option autoImplicit false

namespace MessageFormat.Decimal

theorem isZero_iff_value_eq_zero (d : Decimal) : d.isZero = true ↔ d.value = 0 := by
  refine ⟨value_of_isZero, fun h => ?_⟩
  by_contra hz
  have hpos := size_pos (Bool.eq_false_of_not_eq_true hz)
  rw [← abs_value, h, abs_zero] at hpos
  exact lt_irrefl 0 hpos

theorem magnitude_roundTo (d : Decimal) (e : Int) :
    (d.roundTo e).magnitude = d.magnitude.roundTo e := by
  have hexponent : d.magnitude.exponent = d.exponent := rfl
  unfold roundTo
  rw [hexponent]
  split <;> rfl

theorem magnitude_rounded (d : Decimal) (precision : Nat) :
    (d.rounded precision).magnitude = d.magnitude.rounded precision := by
  have hcount (r : Decimal) : r.magnitude.digitCount = r.digitCount := rfl
  have hexponent (r : Decimal) : r.magnitude.exponent = r.exponent := rfl
  have hleast : d.magnitude.leastKept precision = d.leastKept precision := rfl
  unfold rounded
  dsimp only
  rw [hleast, ← magnitude_roundTo, hcount, hexponent]
  split
  · exact magnitude_roundTo _ _
  · rfl

/-- The result for a magnitude is the magnitude of the result. -/
theorem finish_magnitude (d : Decimal) (precision : Nat) :
    finish d.magnitude precision = (finish d precision).map magnitude := by
  have hadjusted : (d.rounded precision).magnitude.adjusted = (d.rounded precision).adjusted := rfl
  change (if d.isZero then _ else if maxExponent < d.adjusted then _ else
      if maxExponent < (d.magnitude.rounded precision).adjusted then Except.error Signal.overflow
      else .ok (d.magnitude.rounded precision)) =
    (if d.isZero then _ else if maxExponent < d.adjusted then _ else
      if maxExponent < (d.rounded precision).adjusted then Except.error Signal.overflow
      else .ok (d.rounded precision)).map magnitude
  rw [← magnitude_rounded, hadjusted]
  split
  · rfl
  · split
    · rfl
    · split <;> rfl

theorem multiply_magnitude (a b : Decimal) :
    a.magnitude.multiply b.magnitude = (a.multiply b).map magnitude := by
  rw [multiply, multiply, ← finish_magnitude]
  rfl

end MessageFormat.Decimal
