import MessageFormat.Number.Rounding
import MessageFormat.Proofs.Decimal.Quantize

/-!
Rounding to places and to significant digits. What is rounded is the decimal at the exponent of the last digit
that is kept, and within the range of exponents there is always room for it.
-/

set_option autoImplicit false

namespace MessageFormat.Number

open Decimal

variable {value r : Decimal} {places : ℤ}

theorem roundingPrecision_pos (value : Decimal) (places : ℤ) : 0 < roundingPrecision value places :=
  defaultPrecision_pos.trans_le (le_max_left _ _)

/-- Below the smallest exponent a power of ten is rounded away. -/
theorem exponent_scaleb_one {n : ℤ} {precision : Nat} {unit : Decimal} (hp : 0 < precision)
    (h : one.scaleb n precision = .ok unit) : unit.exponent = max (tinyExponent precision) n := by
  have hcount : (⟨false, 1, 0 + n⟩ : Decimal).digitCount = 1 := by
    have hdigits : (Text.natDigits 1).length = 1 := by decide
    exact hdigits
  unfold scaleb at h
  split at h
  · cases h
  · change finish ⟨false, 1, 0 + n⟩ precision = .ok unit at h
    have hleast : (⟨false, 1, 0 + n⟩ : Decimal).leastKept precision =
        max (tinyExponent precision) (n + 1 - precision) := by
      rw [leastKept, hcount]
      simp
    rcases finish_eq_ok h with ⟨hz, -⟩ | ⟨hz, rfl, -⟩
    · cases hz
    · cases rounds hp hz with
      | exact hexact hr =>
        rw [hr]
        dsimp only at hexact ⊢
        omega
      | kept hlt _ _ _ he =>
        dsimp only at hlt
        omega
      | carried hlt hl =>
        rw [adjusted, hcount] at hl
        dsimp only at hlt hl
        omega

/-- What is rounded to places is the decimal at their exponent, or at the smallest one. -/
theorem of_roundPlaces (h : roundPlaces value places = .ok r) :
    r = value.roundedAt (max (tinyExponent (roundingPrecision value places)) (-places)) ∧
      r.adjusted ≤ maxExponent := by
  have hp := roundingPrecision_pos value places
  unfold roundPlaces at h
  dsimp only at h
  cases hunit : one.scaleb (-places) (roundingPrecision value places) with
  | error s =>
    rw [hunit] at h
    cases h
  | ok unit =>
    simp only [hunit, Bind.bind, Except.bind] at h
    refine ⟨by rw [eq_of_quantize hp h, exponent_scaleb_one hp hunit], ?_⟩
    rcases quantize_spec (d := value) (e := unit.exponent) hp with herror | ⟨r', hr', hadjusted⟩
    · rw [herror] at h
      cases h
    · rw [hr'] at h
      rwa [← Except.ok.inj h]

/-- The precision has room for what is rounded to places, and for a carry. -/
theorem digitCount_roundedAt_le {e : ℤ} (he : -places ≤ e) :
    (value.roundedAt e).digitCount ≤ roundingPrecision value places := by
  have hp := roundingPrecision_pos value places
  by_cases hz : value.isZero = true
  · exact (adjusted_roundedAt_of_isZero hz).1.trans_le hp
  have hroom : value.adjusted + places + 2 ≤ (roundingPrecision value places : ℤ) := by
    unfold roundingPrecision
    omega
  obtain ⟨k, hk⟩ : ∃ k, roundingPrecision value places = k + 1 := ⟨_, (Nat.succ_pred_eq_of_pos hp).symm⟩
  have hsize : value.size ≤ ((10 ^ k : ℕ) : ℚ) * 10 ^ e := by
    have hmono : (10 : ℚ) ^ (value.adjusted + 1) ≤ 10 ^ ((k : ℤ) + e) :=
      zpow_le_zpow_right₀ (by norm_num) (by omega)
    rw [zpow_add₀ (by norm_num) (k : ℤ), zpow_natCast] at hmono
    push_cast
    exact (size_bounds (by simpa using hz)).2.le.trans hmono
  have hround := size_roundedAt_le hsize
  rw [size, exponent_roundedAt, mul_le_mul_iff_left₀ (by positivity)] at hround
  have hcoefficient : (value.roundedAt e).coefficient ≤ 10 ^ k := by exact_mod_cast hround
  rw [hk, digitCount_le_iff (Nat.succ_pos k)]
  exact hcoefficient.trans_lt (Nat.pow_lt_pow_right (by decide) (Nat.lt_succ_self k))

/-- There is room for all digits that are kept, so what is in range is found. Places past the smallest exponent are
rounded at that one. -/
theorem roundPlaces_eq_roundedAt {e : ℤ}
    (he : e = max (tinyExponent (roundingPrecision value places)) (-places)) (hmost : -places ≤ maxExponent)
    (hnear : places.natAbs ≤ 2 * (maxExponent + roundingPrecision value places))
    (ha : (value.roundedAt e).adjusted ≤ maxExponent) :
    roundPlaces value places = .ok (value.roundedAt e) := by
  have hp := roundingPrecision_pos value places
  have htiny := tinyExponent_neg (roundingPrecision value places)
  obtain ⟨unit, hunit⟩ : ∃ unit, one.scaleb (-places) (roundingPrecision value places) = .ok unit := by
    rcases scaleb_one hp hmost with herror | hunit
    · rw [scaleb, if_neg (by omega), finish_eq_error_iff hp] at herror
      exact absurd herror.1 (by decide)
    · exact hunit
  have hroom : (value.digitCount : ℤ) + (value.exponent - e) ≤ roundingPrecision value places := by
    unfold roundingPrecision adjusted at *
    omega
  have hlast : e ≤ maxExponent := by
    unfold maxExponent at *
    omega
  unfold roundPlaces
  dsimp only
  rw [hunit]
  change value.quantize unit.exponent (roundingPrecision value places) = _
  rw [exponent_scaleb_one hp hunit, ← he]
  exact quantize_eq_ok hp (by omega) hlast hroom (digitCount_roundedAt_le (by omega)) ha

/-- Rounding to places is refused only at the ends of the exponent range. -/
theorem roundPlaces_eq_ok (htiny : tinyExponent (roundingPrecision value places) ≤ -places)
    (hmost : -places ≤ maxExponent) (ha : (value.roundedAt (-places)).adjusted ≤ maxExponent) :
    roundPlaces value places = .ok (value.roundedAt (-places)) := by
  refine roundPlaces_eq_roundedAt (max_eq_right htiny).symm hmost ?_ ha
  unfold tinyExponent minExponent maxExponent at *
  omega

/-! Powers of ten. -/

/-- A power of ten is reached from half a unit of the last place below. -/
theorem pow_le_size_roundPlaces_iff (h : roundPlaces value places = .ok r) {n : ℤ} (hn : 0 ≤ n)
    (hplaces : -places < n) : 10 ^ n ≤ r.size ↔ 10 ^ n - 1 / 2 * 10 ^ (-places) ≤ value.size := by
  have htiny := tinyExponent_neg (roundingPrecision value places)
  rw [(of_roundPlaces h).1, pow_le_size_roundedAt_iff (by omega)]
  rcases le_or_gt (tinyExponent (roundingPrecision value places)) (-places) with hle | hlt
  · rw [max_eq_right hle]
  · -- what has so many places is far below each power of ten that is an integer
    have hbound : value.size < 1 / 2 := by
      by_cases hz : value.isZero = true
      · rw [size_of_isZero hz]
        norm_num
      · have hadjusted : value.adjusted + 1 ≤ -1 := by
          unfold tinyExponent minExponent roundingPrecision at hlt
          omega
        have hmono : (10 : ℚ) ^ (value.adjusted + 1) ≤ 10 ^ (-1 : ℤ) :=
          zpow_le_zpow_right₀ (by norm_num) hadjusted
        have hten : (10 : ℚ) ^ (-1 : ℤ) < 1 / 2 := by norm_num
        exact (size_bounds (by simpa using hz)).2.trans_le hmono |>.trans hten
    have hpower : (1 : ℚ) ≤ 10 ^ n := one_le_zpow₀ (by norm_num) hn
    have hunit {e : ℤ} (he : e ≤ 0) : (10 : ℚ) ^ e ≤ 1 := zpow_le_one_of_nonpos₀ (by norm_num) he
    have hleast := hunit (e := max (tinyExponent (roundingPrecision value places)) (-places)) (by omega)
    have hplace := hunit (e := -places) (by omega)
    exact iff_of_false (by linarith) (by linarith)

theorem size_roundPlaces_le (h : roundPlaces value places = .ok r) {n : ℤ} (hn : 0 ≤ n)
    (hplaces : -places ≤ n) (hv : value.size ≤ 10 ^ n) : r.size ≤ 10 ^ n := by
  have htiny := tinyExponent_neg (roundingPrecision value places)
  rw [(of_roundPlaces h).1]
  exact size_roundedAt_le_pow (by omega) hv

/-! Where rounding is refused, and what is found elsewhere. -/

/-- Rounding to places is refused or stays within the exponent range. -/
theorem roundPlaces_spec (value : Decimal) (places : ℤ) (h : -places ≤ maxExponent) :
    roundPlaces value places = .error .invalidOperation ∨
      ∃ r, roundPlaces value places = .ok r ∧ r.adjusted ≤ maxExponent := by
  have hp := roundingPrecision_pos value places
  unfold roundPlaces
  rcases scaleb_one hp h with herror | ⟨unit, hunit⟩
  · exact .inl (by simp [herror, Bind.bind, Except.bind])
  · simpa [hunit, Bind.bind, Except.bind] using quantize_spec hp

/-- Of what has no more places than results have, rounding to places refuses just what it would round to a number
past the range of exponents. -/
theorem roundPlaces_eq_error_iff {s : Signal} (he : tinyExponent defaultPrecision ≤ value.exponent)
    (hmost : -places ≤ maxExponent) : roundPlaces value places = .error s ↔
      s = .invalidOperation ∧ 10 ^ (maxExponent + 1) ≤ value.size + 1 / 2 * 10 ^ (-places) := by
  have htiny := tinyExponent_neg (roundingPrecision value places)
  have hleast : tinyExponent (roundingPrecision value places) ≤ tinyExponent defaultPrecision := by
    unfold tinyExponent roundingPrecision
    omega
  obtain ⟨e, hlast⟩ : ∃ e, e = max (tinyExponent (roundingPrecision value places)) (-places) := ⟨_, rfl⟩
  have hle : e ≤ maxExponent := by
    unfold maxExponent at *
    omega
  -- where the exponent is not that of the places, nothing is rounded away
  have hsize : (value.roundedAt e).size = (value.roundedAt (-places)).size := by
    rcases le_or_gt (tinyExponent (roundingPrecision value places)) (-places) with hplaces | hplaces
    · rw [hlast, max_eq_right hplaces]
    · rw [size_roundedAt_of_le (by omega), size_roundedAt_of_le (by omega)]
  have hpast : maxExponent < (value.roundedAt e).adjusted ↔
      10 ^ (maxExponent + 1) ≤ value.size + 1 / 2 * 10 ^ (-places) := by
    rw [← not_le, adjusted_le_iff ((exponent_roundedAt value e).trans_le hle), not_lt, hsize,
      pow_le_size_roundedAt_iff (by omega), sub_le_iff_le_add]
  rw [← hpast]
  rcases le_or_gt (value.roundedAt e).adjusted maxExponent with hin | hout
  · have hnear : places.natAbs ≤ 2 * (maxExponent + roundingPrecision value places) := by
      have hdigits := value.digitCount_pos
      unfold tinyExponent minExponent maxExponent roundingPrecision adjusted defaultPrecision at *
      omega
    rw [roundPlaces_eq_roundedAt hlast hmost hnear hin]
    exact iff_of_false (fun h => nomatch h) fun h => absurd h.2 (not_lt.mpr hin)
  · rcases roundPlaces_spec value places hmost with herror | ⟨r, hr, hin⟩
    · rw [herror, Except.error.injEq, eq_comm]
      exact (and_iff_left hout).symm
    · rw [(of_roundPlaces hr).1, ← hlast] at hin
      omega

/-- What is below a power of ten in range is not refused. -/
theorem exists_roundPlaces (places : ℤ) {n : ℤ} (he : tinyExponent defaultPrecision ≤ value.exponent)
    (hn : n ≤ maxExponent) (hplaces : -places < n) (hv : value.size < 10 ^ n) :
    ∃ r, roundPlaces value places = .ok r := by
  cases h : roundPlaces value places with
  | ok r => exact ⟨r, rfl⟩
  | error s =>
    obtain ⟨-, hpast⟩ := (roundPlaces_eq_error_iff he (by omega)).mp h
    have hbelow : (10 : ℚ) ^ n ≤ 10 ^ maxExponent := zpow_le_zpow_right₀ (by norm_num) hn
    have hunit : (10 : ℚ) ^ (-places) ≤ 10 ^ maxExponent := zpow_le_zpow_right₀ (by norm_num) (by omega)
    have hpos : (0 : ℚ) < 10 ^ maxExponent := by positivity
    rw [zpow_add_one₀ (by norm_num)] at hpast
    linarith

/-- A whole number has no places to round away. -/
theorem exists_roundPlaces_zero (he : 0 ≤ value.exponent) (ha : value.adjusted ≤ maxExponent) :
    ∃ r, roundPlaces value 0 = .ok r ∧ r.size = value.size ∧ r.negative = value.negative := by
  have hsame : value.roundedAt (-0) = value.lowerTo 0 := if_pos he
  have htiny := tinyExponent_neg (roundingPrecision value 0)
  refine ⟨_, roundPlaces_eq_ok (by omega) (by decide) ?_, by rw [hsame, size_lowerTo], by rw [hsame]; rfl⟩
  by_cases hz : value.isZero = true
  · rw [(adjusted_roundedAt_of_isZero hz).2]
    decide
  · have hsize : (value.roundedAt (-0)).size = value.size := by rw [hsame, size_lowerTo]
    rwa [adjusted_eq_of_size_eq (by simpa using hz) hsize]

/-- Digits that are rounded into the integer part are written out. -/
theorem exists_written_out (h : roundPlaces value places = .ok r) : ∃ r' : Decimal,
    r'.size = r.size ∧ r'.negative = r.negative ∧ r'.adjusted ≤ maxExponent ∧ ∀ {α : Type} (f : Decimal → Except Signal α),
      (if places < 0 then roundPlaces r 0 >>= f else .ok r >>= f) = f r' := by
  obtain ⟨hr, hadjusted⟩ := of_roundPlaces h
  by_cases hplaces : places < 0
  · have hwhole : 0 ≤ r.exponent := by
      rw [hr, exponent_roundedAt]
      omega
    obtain ⟨r', hr', hsize, hsign⟩ := exists_roundPlaces_zero hwhole hadjusted
    refine ⟨r', hsize, hsign, (of_roundPlaces hr').2, fun f => ?_⟩
    rw [if_pos hplaces, hr']
    rfl
  · exact ⟨r, rfl, rfl, hadjusted, fun f => if_neg hplaces⟩

/-- What is rounded to significant digits, and which digits are shown of it. -/
theorem exists_roundSignificant {q : Decimal} {most : Nat} (hz : value.isZero = false) (least : Nat)
    (hq : roundPlaces value (most - value.adjusted - 1) = .ok q) : ∃ v : Decimal, v.size = q.size ∧
      v.negative = q.negative ∧ v.adjusted ≤ maxExponent ∧ roundSignificant value least most =
        .ok ⟨v, (least - v.adjusted - 1 : ℤ).toNat,
          max (least - v.adjusted - 1 : ℤ).toNat (most - value.adjusted - 1 : ℤ).toNat⟩ := by
  obtain ⟨v, hsize, hsign, hadjusted, hwritten⟩ := exists_written_out hq
  refine ⟨v, hsize, hsign, hadjusted, ?_⟩
  unfold roundSignificant
  rw [if_neg (by simp [hz])]
  dsimp only
  rw [hq]
  exact hwritten fun v =>
    let minFraction := (least - v.adjusted - 1 : ℤ).toNat
    .ok (⟨v, minFraction, max minFraction ((most : ℤ) - value.adjusted - 1).toNat⟩ : Rounded)

/-- Significant digits are kept by rounding to the places that they reach to. -/
theorem roundSignificant_eq (hz : value.isZero = false) (least most : Nat) :
    (∃ s, roundPlaces value (most - value.adjusted - 1) = .error s ∧
      roundSignificant value least most = .error s) ∨
    ∃ q r, roundPlaces value (most - value.adjusted - 1) = .ok q ∧
      roundSignificant value least most = .ok r ∧ r.value.size = q.size ∧
      r.value.adjusted ≤ maxExponent := by
  cases hq : roundPlaces value (most - value.adjusted - 1) with
  | error s =>
    refine .inl ⟨s, rfl, ?_⟩
    unfold roundSignificant
    rw [if_neg (by simp [hz])]
    dsimp only
    rw [hq]
    rfl
  | ok q =>
    obtain ⟨v, hsize, -, hadjusted, hrounded⟩ := exists_roundSignificant hz least hq
    exact .inr ⟨q, _, rfl, hrounded, hsize, hadjusted⟩

theorem roundSignificant_spec (value : Decimal) (least most : Nat) (hm : 0 < most)
    (h : value.adjusted ≤ maxExponent) :
    roundSignificant value least most = .error .invalidOperation ∨
      ∃ r, roundSignificant value least most = .ok r ∧ r.value.adjusted ≤ maxExponent := by
  by_cases hz : value.isZero = true
  · have hzero : Decimal.zero.adjusted ≤ maxExponent := by decide
    exact .inr ⟨_, if_pos hz, hzero⟩
  · rcases roundSignificant_eq (by simpa using hz) least most with
      ⟨s, hs, herror⟩ | ⟨q, r, -, hr, -, hadjusted⟩
    · rcases roundPlaces_spec value (most - value.adjusted - 1) (by omega) with hinvalid | ⟨q, hq, -⟩
      · rw [herror, Except.error.inj (hs.symm.trans hinvalid)]
        exact .inl rfl
      · rw [hq] at hs
        cases hs
    · exact .inr ⟨r, hr, hadjusted⟩

end MessageFormat.Number
