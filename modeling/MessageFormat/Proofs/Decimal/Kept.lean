import Mathlib.Algebra.Order.Group.Abs
import Mathlib.Algebra.Order.Ring.Abs
import MessageFormat.Proofs.Decimal.Overflow

/-!
What results keep. A decimal is its own result, up to zeros at the end of a whole number, where it has no
more digits and places than are kept.
-/

set_option autoImplicit false

namespace MessageFormat.Decimal

/-- How many digits stand after the point. -/
def places (d : Decimal) : Nat := (-d.exponent).toNat

/-- Nothing of a decimal is lost in a result. It has no more places than the smallest numbers; if it is not
zero it is in the range of exponents, and it has no more digits than the precision or is a whole number with
zeros for all further digits. -/
def Kept (d : Decimal) (precision : Nat := defaultPrecision) : Prop :=
  d.places ≤ -tinyExponent precision ∧ (d.isZero = true ∨ d.adjusted ≤ maxExponent ∧
    (d.digitCount ≤ precision ∨ d.places = 0 ∧ 10 ^ (d.digitCount - precision) ∣ d.coefficient))

instance (d : Decimal) (precision : Nat) : Decidable (d.Kept precision) :=
  inferInstanceAs (Decidable (_ ∧ _))

theorem abs_value (d : Decimal) : |d.value| = d.size := by
  unfold value
  split
  · rw [abs_neg, abs_of_nonneg d.size_nonneg]
  · exact abs_of_nonneg d.size_nonneg

theorem size_eq_of_value_eq {a b : Decimal} (h : a.value = b.value) : a.size = b.size := by
  rw [← abs_value, h, abs_value]

theorem value_of_isZero {d : Decimal} (h : d.isZero = true) : d.value = 0 := by
  rw [← abs_eq_zero, abs_value, size_of_isZero h]

theorem tinyExponent_neg (precision : Nat) : tinyExponent precision < 0 := by
  unfold tinyExponent minExponent
  omega

/-- Over a higher exponent a value has zeros in place of the digits that are gone. -/
theorem dvd_of_size_eq {a b : Decimal} {k : Nat} (h : a.size = b.size)
    (he : b.exponent + k ≤ a.exponent) : 10 ^ k ∣ b.coefficient := by
  obtain ⟨j, hj⟩ : ∃ j : ℕ, a.exponent = b.exponent + (k + j : ℕ) :=
    ⟨(a.exponent - b.exponent - k).toNat, by omega⟩
  have hunit : (10 : ℚ) ^ b.exponent ≠ 0 := by positivity
  have hsize : (a.coefficient * 10 ^ (k + j) : ℚ) * 10 ^ b.exponent = b.coefficient * 10 ^ b.exponent := by
    rw [size, size, hj, zpow_add₀ (by norm_num), zpow_natCast] at h
    rw [← h]
    ring
  have hcoefficient : a.coefficient * 10 ^ (k + j) = b.coefficient := by
    exact_mod_cast mul_right_cancel₀ hunit hsize
  exact ⟨a.coefficient * 10 ^ j, by rw [← hcoefficient, pow_add]; ring⟩

theorem divideHalfEven_mul {p : Nat} (hp : 0 < p) (q : Nat) : divideHalfEven (q * p) p = q := by
  simp [divideHalfEven, hp]

/-- Zeros are rounded away, and the rest stays. -/
theorem roundTo_of_dvd {d : Decimal} {k q : Nat} (hk : 0 < k) (h : d.coefficient = 10 ^ k * q) :
    d.roundTo (d.exponent + k) = ⟨d.negative, q, d.exponent + k⟩ := by
  rw [roundTo, if_neg (by omega), show (d.exponent + k - d.exponent).toNat = k by omega,
    dropDigits_eq d.coefficient_lt, h, Nat.mul_comm, divideHalfEven_mul (by positivity)]

/-- Zeros are rounded away without a carry. -/
theorem rounded_of_dvd {d : Decimal} {precision k : Nat} (hp : 0 < precision) (hk : 0 < k)
    (hdigits : d.digitCount = precision + k) (hwhole : 0 ≤ d.exponent) (h : 10 ^ k ∣ d.coefficient) :
    ∃ q, d.coefficient = 10 ^ k * q ∧ d.rounded precision = ⟨d.negative, q, d.exponent + k⟩ ∧
      (d.rounded precision).digitCount ≤ precision := by
  have htiny := tinyExponent_neg precision
  have hleast : d.leastKept precision = d.exponent + k := by
    unfold leastKept
    omega
  obtain ⟨q, hq⟩ := h
  have hround := roundTo_of_dvd hk hq
  have hshort : (⟨d.negative, q, d.exponent + k⟩ : Decimal).digitCount ≤ precision := by
    have hlt := d.coefficient_lt
    rw [hdigits, Nat.add_comm, pow_add, hq] at hlt
    exact (digitCount_le_iff hp).mpr (Nat.lt_of_mul_lt_mul_left hlt)
  have hrounded : d.rounded precision = ⟨d.negative, q, d.exponent + k⟩ := by
    rw [rounded, hleast, hround, if_neg (Nat.not_lt.mpr hshort)]
  exact ⟨q, hq, hrounded, hrounded ▸ hshort⟩

theorem size_append_zeros (negative : Bool) (q k : Nat) (e : Int) :
    (⟨negative, q, e + k⟩ : Decimal).size = (⟨negative, 10 ^ k * q, e⟩ : Decimal).size := by
  rw [size, size, zpow_add₀ (by norm_num), zpow_natCast]
  push_cast
  ring

theorem isZero_of_size_eq {a b : Decimal} (hb : b.isZero = false) (h : a.size = b.size) :
    a.isZero = false := by
  by_contra hz
  have hpos := size_pos hb
  rw [← h, size_of_isZero (by simpa using hz)] at hpos
  exact lt_irrefl 0 hpos

theorem adjusted_eq_of_size_eq {a b : Decimal} (hb : b.isZero = false) (h : a.size = b.size) :
    a.adjusted = b.adjusted := by
  have ha := isZero_of_size_eq hb h
  rcases lt_trichotomy a.adjusted b.adjusted with hlt | heq | hlt
  · exact absurd h (size_lt_of_adjusted ha hb hlt).ne
  · exact heq
  · exact absurd h (size_lt_of_adjusted hb ha hlt).ne'

/-- What is rounded to a decimal of the same size that fits is that decimal. -/
theorem finish_of_rounded {d : Decimal} {precision : Nat} (hp : 0 < precision) (hd : d.isZero = false)
    (ha : d.adjusted ≤ maxExponent) (hcount : (d.rounded precision).digitCount ≤ precision)
    (hsize : (d.rounded precision).size = d.size) : finish d precision = .ok (d.rounded precision) := by
  have hrounded := isZero_of_size_eq hd hsize
  cases hf : finish d precision with
  | error s =>
    obtain ⟨-, hbound⟩ := (finish_eq_error_iff hp).mp hf
    rw [← hsize, overflowBound_le_iff hrounded hcount, adjusted_eq_of_size_eq hd hsize] at hbound
    omega
  | ok r =>
    rcases finish_eq_ok hf with ⟨hz, -⟩ | ⟨-, rfl, -⟩
    · rw [hd] at hz
      cases hz
    · rfl

/-- No more digits than the precision, in the range of exponents. -/
def Fits (d : Decimal) (precision : Nat := defaultPrecision) : Prop :=
  tinyExponent precision ≤ d.exponent ∧ d.adjusted ≤ maxExponent ∧ d.digitCount ≤ precision

instance (d : Decimal) (precision : Nat) : Decidable (d.Fits precision) :=
  inferInstanceAs (Decidable (_ ∧ _))

theorem Fits.magnitude {d : Decimal} {precision : Nat} (h : d.Fits precision) :
    d.magnitude.Fits precision := h

/-- What fits is its own result. -/
theorem Fits.finish_eq {d : Decimal} {precision : Nat} (h : d.Fits precision) (hp : 0 < precision) :
    finish d precision = .ok d := by
  obtain ⟨hexponent, hadjusted, hcount⟩ := h
  by_cases hz : d.isZero = true
  · have hle : d.exponent ≤ maxExponent := (adjusted_of_isZero hz).symm.trans_le hadjusted
    rw [finish, if_pos hz, min_eq_left hle, max_eq_right hexponent]
  simp only [Bool.not_eq_true] at hz
  have hround : d.rounded precision = d := by
    cases rounds hp hz with
    | exact _ hr => exact hr
    | kept h =>
      unfold leastKept at h
      omega
    | carried h =>
      unfold leastKept at h
      omega
  have hfinish := finish_of_rounded hp hz hadjusted (by rwa [hround]) (by rw [hround])
  rwa [hround] at hfinish

/-- A result fits. -/
theorem fits_of_finish {d r : Decimal} {precision : Nat} (hp : 0 < precision)
    (h : finish d precision = .ok r) : r.Fits precision := by
  obtain ⟨hadjusted, hexponent⟩ := range_of_finish hp h
  refine ⟨hexponent, hadjusted, ?_⟩
  rcases finish_eq_ok h with ⟨-, hr, -⟩ | ⟨hd, rfl, -⟩
  · rw [digitCount, isZero_iff.mp hr]
    exact hp
  · exact digitCount_rounded hp hd

/-- A magnitude that some decimal has which fits. -/
def Representable (size : ℚ) (precision : Nat := defaultPrecision) : Prop :=
  ∃ d : Decimal, d.Fits precision ∧ d.size = size

theorem Fits.representable {d : Decimal} {precision : Nat} (h : d.Fits precision) :
    Representable d.size precision := ⟨d, h, rfl⟩

/-- What has the size of a decimal that fits has zeros in place of the digits that are rounded away. -/
theorem size_rounded {d f : Decimal} {precision : Nat} (hp : 0 < precision) (hd : d.isZero = false)
    (hf : f.Fits precision) (h : f.size = d.size) : (d.rounded precision).size = d.size := by
  obtain ⟨hexponent, -, hcount⟩ := hf
  by_cases hexact : d.leastKept precision ≤ d.exponent
  · cases rounds hp hd with
    | exact _ hr => rw [hr]
    | kept hlt => exact absurd hexact (Int.not_le.mpr hlt)
    | carried hlt => exact absurd hexact (Int.not_le.mpr hlt)
  have hadjusted := adjusted_eq_of_size_eq hd h
  obtain ⟨k, hk⟩ : ∃ k : ℕ, d.leastKept precision = d.exponent + k :=
    ⟨(d.leastKept precision - d.exponent).toNat, by omega⟩
  have hle : d.exponent + k ≤ f.exponent := by
    rw [← hk, leastKept]
    unfold adjusted at hadjusted
    omega
  obtain ⟨q, hq⟩ := dvd_of_size_eq h hle
  have hround := roundTo_of_dvd (by omega) hq
  have hsize : (⟨d.negative, q, d.exponent + k⟩ : Decimal).size = d.size := by
    rw [size_append_zeros, size, size, hq]
  -- the first digit stays where it was, so there is no carry
  have hshort : (⟨d.negative, q, d.exponent + k⟩ : Decimal).digitCount ≤ precision := by
    have hsame := adjusted_eq_of_size_eq hd hsize
    have hleast : d.exponent + d.digitCount - precision ≤ d.leastKept precision := le_max_right _ _
    unfold adjusted at hsame
    dsimp only at hsame
    omega
  rw [rounded, hk, hround, if_neg (Nat.not_lt.mpr hshort), hsize]

/-- Nothing of a size is lost in a result just if a decimal fits that has it. -/
theorem finish_exact_iff {d : Decimal} {precision : Nat} (hp : 0 < precision) :
    (∃ r, finish d precision = .ok r ∧ r.size = d.size) ↔ Representable d.size precision := by
  constructor
  · rintro ⟨r, hr, hsize⟩
    exact ⟨r, fits_of_finish hp hr, hsize⟩
  · rintro ⟨f, hf, hsize⟩
    by_cases hd : d.isZero = true
    · have hzero : size { d with exponent := max (tinyExponent precision) (min d.exponent maxExponent) } = 0 :=
        size_of_isZero hd
      exact ⟨_, by rw [finish, if_pos hd], by rw [hzero, size_of_isZero hd]⟩
    · have hd' : d.isZero = false := by simpa using hd
      have hrounded := size_rounded hp hd' hf hsize
      have hadjusted : d.adjusted ≤ maxExponent := adjusted_eq_of_size_eq hd' hsize ▸ hf.2.1
      exact ⟨_, finish_of_rounded hp hd' hadjusted (digitCount_rounded hp hd') hrounded, hrounded⟩

/-! Signs. -/

theorem negative_roundTo (d : Decimal) (e : Int) : (d.roundTo e).negative = d.negative := by
  unfold roundTo
  split <;> rfl

theorem negative_rounded (d : Decimal) (precision : Nat) : (d.rounded precision).negative = d.negative := by
  unfold rounded
  dsimp only
  split <;> simp only [negative_roundTo]

theorem negative_finish {d r : Decimal} {precision : Nat} (h : finish d precision = .ok r) :
    r.negative = d.negative := by
  by_cases hz : d.isZero = true
  · rw [finish, if_pos hz] at h
    rw [← Except.ok.inj h]
  · rcases finish_eq_ok h with ⟨hd, -⟩ | ⟨-, rfl, -⟩
    · exact absurd hd hz
    · exact negative_rounded d precision

theorem value_eq_iff_size_eq {a b : Decimal} (h : a.negative = b.negative) :
    a.value = b.value ↔ a.size = b.size := by
  unfold value
  rw [h]
  split
  · exact neg_inj
  · rfl

/-! What is kept. -/

/-- A result has the value and the places of a decimal just if nothing of it is lost. -/
theorem finish_kept_iff {d : Decimal} {precision : Nat} (hp : 0 < precision) :
    (∃ r, finish d precision = .ok r ∧ r.value = d.value ∧ r.places = d.places) ↔ d.Kept precision := by
  have htiny := tinyExponent_neg precision
  constructor
  · rintro ⟨r, hr, hvalue, hplaces⟩
    rcases finish_eq_ok hr with ⟨hz, -, he⟩ | ⟨hz, rfl, ha⟩
    · refine ⟨?_, .inl hz⟩
      unfold places at *
      unfold maxExponent at he
      omega
    · have hsize := size_eq_of_value_eq hvalue
      -- where digits are rounded away the exponent rises, so that no places can be kept
      have hwhole {e : ℤ} (he : (d.rounded precision).exponent = e) (hlt : d.exponent < d.leastKept precision)
          (hle : d.leastKept precision ≤ e) : d.Kept precision := by
        have hzero : 0 ≤ d.exponent := by
          unfold places at hplaces
          omega
        have hplaces' : d.places = 0 := by
          unfold places
          omega
        have hleast : d.leastKept precision = d.exponent + d.digitCount - precision := by
          unfold leastKept at *
          omega
        have hdvd : 10 ^ (d.digitCount - precision) ∣ d.coefficient :=
          dvd_of_size_eq hsize (by omega)
        have hadjusted : d.adjusted ≤ maxExponent := by
          by_contra hlarge
          rw [finish, if_neg (by simp [hz]), if_pos (by omega)] at hr
          cases hr
        exact ⟨by omega, .inr ⟨hadjusted, .inr ⟨hplaces', hdvd⟩⟩⟩
      cases rounds hp hz with
      | exact h hexact =>
        rw [hexact] at ha
        refine ⟨?_, .inr ⟨ha, .inl (digitCount_le_of_exact h)⟩⟩
        unfold leastKept at h
        unfold places
        omega
      | kept h _ _ _ he => exact hwhole he h le_rfl
      | carried h _ _ _ he => exact hwhole he h (by omega)
  · rintro ⟨hplaces, hrest⟩
    have hexponent : tinyExponent precision ≤ d.exponent := by
      unfold places at hplaces
      omega
    by_cases hz : d.isZero = true
    · have hzero (e : ℤ) : value { d with exponent := e } = 0 := value_of_isZero hz
      refine ⟨_, by rw [finish, if_pos hz], (hzero _).trans (value_of_isZero hz).symm, ?_⟩
      unfold places maxExponent
      dsimp only
      omega
    simp only [hz, Bool.false_eq_true, false_or] at hrest
    simp only [Bool.not_eq_true] at hz
    obtain ⟨hadjusted, hdigits⟩ := hrest
    rcases Nat.lt_or_ge precision d.digitCount with hlong | hshort
    · obtain ⟨hzero, hdvd⟩ := hdigits.resolve_left (by omega)
      obtain ⟨k, hk⟩ : ∃ k, d.digitCount = precision + k := ⟨d.digitCount - precision, by omega⟩
      have hwhole : 0 ≤ d.exponent := by
        unfold places at hzero
        omega
      rw [hk, Nat.add_sub_cancel_left] at hdvd
      obtain ⟨q, hq, hround, hcount⟩ := rounded_of_dvd hp (by omega) hk hwhole hdvd
      have hsize : (d.rounded precision).size = d.size := by
        rw [hround, size_append_zeros, size, size, hq]
      refine ⟨_, finish_of_rounded hp hz hadjusted hcount hsize, ?_, ?_⟩
      · rw [value, value, hsize, hround]
      · rw [hround, places, hzero]
        dsimp only
        omega
    · exact ⟨d, Fits.finish_eq ⟨hexponent, hadjusted, hshort⟩ hp, rfl, rfl⟩

end MessageFormat.Decimal
