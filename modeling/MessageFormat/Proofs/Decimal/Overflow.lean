import MessageFormat.Proofs.Decimal.Rounding

/-!
Which results of arithmetic overflow, and which operations cannot.
-/

set_option autoImplicit false

namespace MessageFormat.Decimal

/-- Sizes from here on overflow. -/
def overflowBound (precision : Nat) : ℚ := threshold precision (maxExponent + 1 - precision)

theorem overflowBound_lt (precision : Nat) : overflowBound precision < 10 ^ (maxExponent + 1) := by
  have h := threshold_lt precision (maxExponent + 1 - precision)
  rwa [show maxExponent + 1 - (precision : ℤ) + precision = maxExponent + 1 by omega] at h

theorem lt_overflowBound {precision : Nat} (hp : 0 < precision) :
    10 ^ maxExponent < overflowBound precision := by
  have h := le_threshold hp (maxExponent + 1 - precision)
  rwa [show maxExponent + 1 - (precision : ℤ) + precision - 1 = maxExponent by omega] at h

/-- A decimal with no more digits than the precision reaches the bound where its first digit does. -/
theorem overflowBound_le_iff {d : Decimal} {precision : Nat} (hd : d.isZero = false)
    (hc : d.digitCount ≤ precision) :
    overflowBound precision ≤ d.size ↔ maxExponent < d.adjusted := by
  constructor
  · intro h
    by_contra hle
    -- as many nines as the decimal has digits are still below the bound
    have hcoeff : (d.coefficient : ℚ) ≤ 10 ^ d.digitCount - 1 := by
      have h : (d.coefficient : ℚ) + 1 ≤ 10 ^ d.digitCount := by exact_mod_cast d.coefficient_lt
      linarith
    have hexp : d.exponent ≤ maxExponent + 1 - d.digitCount := by
      unfold adjusted at hle
      omega
    have hone : (1 : ℚ) ≤ 10 ^ d.digitCount := one_le_pow₀ (by norm_num)
    have hsize : d.size ≤ (10 ^ d.digitCount - 1) * 10 ^ (maxExponent + 1 - d.digitCount) :=
      mul_le_mul hcoeff (zpow_le_zpow_right₀ (by norm_num) hexp) (by positivity) (by linarith)
    have hsplit (n : ℕ) : (10 : ℚ) ^ n * 10 ^ (maxExponent + 1 - n) = 10 ^ (maxExponent + 1) := by
      rw [← zpow_natCast, ← zpow_add₀ (by norm_num)]
      congr 1
      omega
    have hunit : (10 : ℚ) ^ (maxExponent + 1 - precision) ≤ 10 ^ (maxExponent + 1 - d.digitCount) :=
      zpow_le_zpow_right₀ (by norm_num) (by omega)
    have hpos : (0 : ℚ) < 10 ^ (maxExponent + 1 - precision) := by positivity
    have hcount := hsplit d.digitCount
    have hprecision := hsplit precision
    rw [overflowBound, threshold] at h
    push_cast at h
    nlinarith
  · intro h
    have hsize := (size_bounds hd).1
    have hmono : (10 : ℚ) ^ (maxExponent + 1) ≤ 10 ^ d.adjusted :=
      zpow_le_zpow_right₀ (by norm_num) (by omega)
    have hlt := overflowBound_lt precision
    linarith

theorem digitCount_rounded {d : Decimal} {precision : Nat} (hp : 0 < precision)
    (hd : d.isZero = false) : (d.rounded precision).digitCount ≤ precision := by
  cases rounds hp hd with
  | exact h hr =>
    rw [hr]
    exact digitCount_le_of_exact h
  | kept h hsize hc hf hr => exact (digitCount_le_iff hp).mpr hc
  | carried h hl hsize hc hr =>
    rw [digitCount_le_iff hp, hc]
    exact Nat.pow_lt_pow_right (by norm_num) (by omega)

theorem tinyExponent_le (precision : Nat) : tinyExponent precision ≤ maxExponent + 1 - precision := by
  unfold tinyExponent minExponent maxExponent
  omega

theorem adjusted_of_isZero {d : Decimal} (h : d.isZero = true) : d.adjusted = d.exponent := by
  have hcount : d.digitCount = 1 := by
    rw [digitCount, isZero_iff.mp h]
    rfl
  unfold adjusted
  omega

theorem size_of_isZero {d : Decimal} (h : d.isZero = true) : d.size = 0 := by
  simp [size, isZero_iff.mp h]

theorem size_lt_overflowBound {d : Decimal} {precision : Nat} (hp : 0 < precision)
    (h : d.adjusted < maxExponent) : d.size < overflowBound precision := by
  by_cases hz : d.isZero = true
  · rw [size_of_isZero hz]
    exact threshold_pos _ _
  · have hmono : (10 : ℚ) ^ (d.adjusted + 1) ≤ 10 ^ maxExponent :=
      zpow_le_zpow_right₀ (by norm_num) (by omega)
    exact (size_bounds (by simpa using hz)).2.trans_le (hmono.trans (lt_overflowBound hp).le)

/-- Nothing overflows that is rounded to zero. -/
theorem maxExponent_lt_rounded_iff {d : Decimal} {precision : Nat} (hp : 0 < precision)
    (hd : d.isZero = false) (ha : d.adjusted ≤ maxExponent) :
    maxExponent < (d.rounded precision).adjusted ↔ overflowBound precision ≤ d.size := by
  rw [overflowBound, ← threshold_le_rounded_iff hp hd (tinyExponent_le precision), ← overflowBound]
  by_cases hz : (d.rounded precision).isZero = true
  · have hexp : (d.rounded precision).exponent ≤ maxExponent := by
      have htiny := tinyExponent_le precision
      cases rounds hp hd with
      | exact h hr =>
        rw [hr, hd] at hz
        cases hz
      | kept h hsize hc hf hr =>
        unfold leastKept at hr
        unfold adjusted at ha
        omega
      | carried h hl hsize hc hr =>
        rw [isZero_iff, hc] at hz
        have hpos : 0 < 10 ^ (precision - 1) := by positivity
        omega
    rw [adjusted_of_isZero hz, size_of_isZero hz]
    have hpos := threshold_pos precision (maxExponent + 1 - precision)
    exact iff_of_false (by omega) (not_le.mpr hpos)
  · exact (overflowBound_le_iff (by simpa using hz) (digitCount_rounded hp hd)).symm

/-- A result overflows just if it reaches the bound, and signals nothing else. -/
theorem finish_eq_error_iff {d : Decimal} {precision : Nat} (hp : 0 < precision) {s : Signal} :
    finish d precision = .error s ↔ s = .overflow ∧ overflowBound precision ≤ d.size := by
  unfold finish
  split
  · rename_i hz
    have hpos := threshold_pos precision (maxExponent + 1 - precision)
    rw [size_of_isZero hz]
    exact iff_of_false (fun h => nomatch h) fun h => (not_le.mpr hpos) h.2
  rename_i hz
  have hz' : d.isZero = false := by simpa using hz
  split
  · rename_i hlt
    have hsize : overflowBound precision ≤ d.size := by
      have hmono : (10 : ℚ) ^ (maxExponent + 1) ≤ 10 ^ d.adjusted :=
        zpow_le_zpow_right₀ (by norm_num) (by omega)
      exact (overflowBound_lt precision).le.trans (hmono.trans (size_bounds hz').1)
    simp [hsize, eq_comm]
  · rename_i hle
    rw [← maxExponent_lt_rounded_iff hp hz' (Int.not_lt.mp hle)]
    change (if maxExponent < (d.rounded precision).adjusted then Except.error Signal.overflow
      else .ok (d.rounded precision)) = .error s ↔ _
    split <;> simp [*, eq_comm]

theorem finish_eq_ok {d r : Decimal} {precision : Nat} (h : finish d precision = .ok r) :
    (d.isZero = true ∧ r.isZero = true ∧
      r.exponent = max (tinyExponent precision) (min d.exponent maxExponent)) ∨
    (d.isZero = false ∧ r = d.rounded precision ∧ r.adjusted ≤ maxExponent) := by
  unfold finish at h
  split at h
  · rename_i hz
    rw [← Except.ok.inj h]
    exact .inl ⟨hz, hz, rfl⟩
  · rename_i hz
    split at h
    · cases h
    · change (if maxExponent < (d.rounded precision).adjusted then Except.error Signal.overflow
        else .ok (d.rounded precision)) = .ok r at h
      split at h
      · cases h
      · rename_i hle
        obtain rfl : d.rounded precision = r := Except.ok.inj h
        exact .inr ⟨by simpa using hz, rfl, Int.not_lt.mp hle⟩

/-- A result is within the exponent range. -/
theorem range_of_finish {d r : Decimal} {precision : Nat} (hp : 0 < precision)
    (h : finish d precision = .ok r) :
    r.adjusted ≤ maxExponent ∧ tinyExponent precision ≤ r.exponent := by
  have htiny := tinyExponent_le precision
  rcases finish_eq_ok h with ⟨-, hr, he⟩ | ⟨hz, rfl, hle⟩
  · rw [adjusted_of_isZero hr]
    omega
  · refine ⟨hle, ?_⟩
    have hleast : tinyExponent precision ≤ d.leastKept precision := le_max_left _ _
    cases rounds hp hz with
    | exact h hr =>
      rw [hr]
      omega
    | kept h hsize hc hf hr => omega
    | carried h hl hsize hc hr => omega

/-- A result is on the same side of each threshold as what it is the result of. -/
theorem threshold_le_finish_iff {d r : Decimal} {precision : Nat} {e : ℤ} (hp : 0 < precision)
    (he : tinyExponent precision ≤ e) (h : finish d precision = .ok r) :
    threshold precision e ≤ r.size ↔ threshold precision e ≤ d.size := by
  rcases finish_eq_ok h with ⟨hz, hr, -⟩ | ⟨hz, rfl, -⟩
  · rw [size_of_isZero hz, size_of_isZero hr]
  · exact threshold_le_rounded_iff hp hz he

end MessageFormat.Decimal
