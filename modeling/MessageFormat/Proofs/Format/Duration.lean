import MessageFormat.Format.Duration
import MessageFormat.Proofs.Decimal.Whole
import MessageFormat.Proofs.Number.Sign

/-!
Durations. Hours and minutes are taken out of the seconds, and what is shown adds up to the duration: exactly for
units, and to the nearest second on a timer.
-/

set_option autoImplicit false

namespace MessageFormat

namespace Decimal

variable {d : Decimal} {n : Nat} {e : ℤ}

/-- A magnitude that some decimal has which fits is kept. -/
theorem exists_absolute (h : Representable |d.value|) :
    ∃ r, d.absolute = .ok r ∧ r.value = |d.value| ∧ r.Fits ∧ (d.Fits → r = d.magnitude) := by
  have hsize : d.magnitude.size = |d.value| := (abs_value d).symm
  rw [← hsize] at h
  obtain ⟨r, hr, hrsize⟩ := (finish_exact_iff defaultPrecision_pos).mpr h
  have hsign : r.negative = false := negative_finish hr
  refine ⟨r, hr, ?_, fits_of_finish defaultPrecision_pos hr, fun hfits => ?_⟩
  · rw [value_of_positive hsign, hrsize, hsize]
  · exact Except.ok.inj (hr.symm.trans (hfits.magnitude.finish_eq defaultPrecision_pos))

theorem pow_precision_le : (10 : ℚ) ^ defaultPrecision ≤ 10 ^ maxExponent := by
  rw [← zpow_natCast]
  exact zpow_le_zpow_right₀ (by norm_num) (by decide)

/-- What lies below the range of exponents is rounded to less than a half. -/
theorem absolute_of_tiny (hn : n < 10 ^ defaultPrecision) (he : e < tinyExponent defaultPrecision)
    (hd : |d.value| = n * 10 ^ e) : ∃ r, d.absolute = .ok r ∧ r.size < 1 / 2 ∧ |d.value| < 1 / 2 := by
  have hsize : d.magnitude.size = |d.value| := (abs_value d).symm
  have htiny : |d.value| < threshold defaultPrecision (tinyExponent defaultPrecision) := by
    have hdigits : (n : ℚ) < 10 ^ defaultPrecision := by exact_mod_cast hn
    calc |d.value| < 10 ^ defaultPrecision * 10 ^ e := by
          rw [hd]
          exact mul_lt_mul_of_pos_right hdigits (by positivity)
      _ = 10 ^ (defaultPrecision + e) := by rw [zpow_add₀ (by norm_num), zpow_natCast]
      _ ≤ 10 ^ (tinyExponent defaultPrecision + defaultPrecision - 1) :=
        zpow_le_zpow_right₀ (by norm_num) (by omega)
      _ < _ := le_threshold defaultPrecision_pos _
  have hhalf : threshold defaultPrecision (tinyExponent defaultPrecision) < 1 / 2 :=
    calc _ < (10 : ℚ) ^ (tinyExponent defaultPrecision + defaultPrecision) := threshold_lt _ _
      _ ≤ 10 ^ (-1 : ℤ) := zpow_le_zpow_right₀ (by norm_num) (by decide)
      _ < 1 / 2 := by norm_num
  cases hr : finish d.magnitude with
  | error signal =>
    have hbound := ((finish_eq_error_iff defaultPrecision_pos).mp hr).2
    rw [hsize] at hbound
    exact absurd (hbound.trans_lt htiny) (not_lt.mpr (threshold_mono _ (by decide)))
  | ok r =>
    have hiff := threshold_le_finish_iff defaultPrecision_pos le_rfl hr
    rw [hsize] at hiff
    exact ⟨r, hr, (not_le.mp (mt hiff.mp (not_le.mpr htiny))).trans hhalf, htiny.trans hhalf⟩

end Decimal

namespace Format

open Decimal
open MessageFormat.Locale (Context)

/-- Hours, minutes and seconds that add up to a span of seconds. -/
structure Splits (span : ℚ) (hours minutes : ℕ) (seconds : ℚ) : Prop where
  sum : 3600 * hours + 60 * minutes + seconds = span
  minutes_lt : minutes < 60
  seconds_nonneg : 0 ≤ seconds
  seconds_lt : seconds < 60

variable {remaining seconds : Decimal} {unit : Nat}

/-- Whole units are taken out and nothing is lost of what remains. -/
theorem takeUnits_spec (hunit : 0 < unit) (hsmall : unit < 10 ^ defaultPrecision) (hfits : remaining.Fits)
    (hnonneg : 0 ≤ remaining.value) (hlt : remaining.value < 10 ^ defaultPrecision) :
    ∃ amount rest, takeUnits remaining unit = .ok (ofNat amount, rest) ∧
      remaining.value = amount * unit + rest.value ∧ 0 ≤ rest.value ∧ rest.value < unit ∧ rest.Fits ∧
      rest.exponent = min remaining.exponent 0 := by
  have hsize : remaining.value = remaining.size := value_eq_size hnonneg
  have hz : (ofNat unit).isZero = false := by simpa [ofNat, isZero] using hunit.ne'
  have hbound : remaining.size < 10 ^ defaultPrecision * (ofNat unit).size := by
    have hone : (1 : ℚ) ≤ unit := by exact_mod_cast hunit
    rw [size_ofNat, ← hsize]
    exact hlt.trans_le (le_mul_of_one_le_right (by positivity) hone)
  obtain ⟨q, r, hquotient, hq, hdivides⟩ := exists_quotient hz hbound
  have hsum : remaining.value = q * unit + r.size := by rw [hsize, hdivides.size_eq, size_ofNat]
  have hproduct : q * unit < 10 ^ defaultPrecision := by
    have hle : (q * unit : ℚ) ≤ remaining.value := by
      rw [hsum]
      exact le_add_of_nonneg_right r.size_nonneg
    exact_mod_cast hle.trans_lt hlt
  have htaken : (ofNat q).multiply (ofNat unit) = .ok (ofNat (q * unit)) :=
    (fits_whole false hproduct).finish_eq defaultPrecision_pos
  obtain ⟨rest, hsubtract, hrest, hexponent, hrestFits⟩ :=
    hdivides.exists_subtract hfits (fits_whole false hsmall) hz hnonneg
  refine ⟨q, rest, ?_, by rw [hrest, hsum], hrest.symm ▸ r.size_nonneg, ?_, hrestFits, hexponent⟩
  · simp only [takeUnits, hquotient, Bind.bind, Except.bind, integerPart_whole, htaken, hsubtract]
    rfl
  · rw [hrest, ← size_ofNat unit]
    exact hdivides.lt

/-- The parts that are not zero. -/
def shownParts (hours minutes : ℕ) (seconds : Decimal) : List (String × Decimal) :=
  [(hourUnit, ofNat hours), (minuteUnit, ofNat minutes), (secondUnit, seconds)].filter
    fun part => part.2.value ≠ 0

theorem shownParts_eq_nil_iff {span : ℚ} {hours minutes : ℕ} (h : Splits span hours minutes seconds.value) :
    shownParts hours minutes seconds = [] ↔ span = 0 := by
  have hhours : (0 : ℚ) ≤ hours := Nat.cast_nonneg _
  have hminutes : (0 : ℚ) ≤ minutes := Nat.cast_nonneg _
  have hseconds := h.seconds_nonneg
  have hnil : shownParts hours minutes seconds = [] ↔
      (hours : ℚ) = 0 ∧ (minutes : ℚ) = 0 ∧ seconds.value = 0 := by
    simp [shownParts, value_ofNat]
  rw [hnil, ← h.sum]
  constructor
  · rintro ⟨hhours, hminutes, hseconds⟩
    rw [hhours, hminutes, hseconds]
    norm_num
  · intro hzero
    refine ⟨?_, ?_, ?_⟩ <;> linarith

theorem durationParts_spec (hrepresentable : Representable |seconds.value|)
    (hlt : |seconds.value| < 10 ^ defaultPrecision) :
    ∃ hours minutes rest, Splits |seconds.value| hours minutes rest.value ∧
      (seconds.Fits → rest.places = seconds.places) ∧
      durationParts seconds = .ok
        (if seconds.value = 0 then [(secondUnit, Decimal.zero)] else shownParts hours minutes rest) := by
  obtain ⟨total, htotal, hvalue, hfits, hkept⟩ := exists_absolute hrepresentable
  have hnonneg : 0 ≤ total.value := by
    rw [hvalue]
    exact abs_nonneg _
  obtain ⟨hours, left, hhours, hsum, hleft, hhour, hleftFits, hleftExponent⟩ :=
    takeUnits_spec (by decide : 0 < 3600) (by decide) hfits hnonneg (hvalue ▸ hlt)
  obtain ⟨minutes, rest, hminutes, hsum', hrest, hminute, hrestFits, hrestExponent⟩ :=
    takeUnits_spec (by decide : 0 < 60) (by decide) hleftFits hleft
      (hhour.trans (by norm_num [defaultPrecision]))
  push_cast at hsum hsum' hhour hminute
  have hsplits : Splits |seconds.value| hours minutes rest.value := by
    refine ⟨by linarith, ?_, hrest, hminute⟩
    have hfewer : (minutes : ℚ) < 60 := by linarith
    exact_mod_cast hfewer
  refine ⟨hours, minutes, rest, hsplits, fun h => ?_, ?_⟩
  · have hexponent : total.exponent = seconds.exponent := by
      rw [hkept h]
      rfl
    unfold places
    omega
  · have hnonzero (part : String × Decimal) : (!part.2.isZero) = decide (part.2.value ≠ 0) := by
      rw [Bool.eq_iff_iff]
      simp [← Decimal.isZero_iff_value_eq_zero]
    have hnil : (shownParts hours minutes rest).isEmpty = true ↔ seconds.value = 0 := by
      rw [List.isEmpty_iff, shownParts_eq_nil_iff hsplits, abs_eq_zero]
    simp only [durationParts, htotal, hhours, hminutes, hnonzero, Bind.bind, Except.bind]
    change Except.ok (if (shownParts hours minutes rest).isEmpty = true then _ else _) = _
    simp only [hnil]
    rfl

/-! The timer. -/

/-- Two digits. -/
def digitPair (n : ℕ) : List Char := [Nat.digitChar (n / 10), Nat.digitChar (n % 10)]

theorem twoDigits_eq {n : ℕ} (h : n < 100) : twoDigits n = digitPair n := by
  revert n
  decide +kernel

/-- Hours, minutes and seconds on a timer, perhaps after a minus sign. -/
def timerText (negative : Bool) (hours minutes seconds : ℕ) : String :=
  String.ofList ((if negative then ['-'] else []) ++ Text.natDigits hours ++ ':' :: digitPair minutes ++
    ':' :: digitPair seconds)

theorem splits_timer (total : ℕ) : Splits total (total / 3600) (total / 60 % 60) (total % 60 : ℕ) := by
  have hsum : 3600 * (total / 3600) + 60 * (total / 60 % 60) + total % 60 = total := by omega
  refine ⟨by exact_mod_cast hsum, Nat.mod_lt _ (by decide), Nat.cast_nonneg _, ?_⟩
  exact_mod_cast Nat.mod_lt total (by decide : 0 < 60)

theorem write_hours {total : ℕ} (h : total < 10 ^ (defaultPrecision + 1)) :
    Text.Integer.write (total / 3600) = .ok (Text.natDigits (total / 3600)) := by
  have hpower : 10 ^ (defaultPrecision + 1) ≤ 10 ^ Text.Integer.mostDigits :=
    Nat.pow_le_pow_right (by decide) (by decide)
  rw [Text.Integer.write, if_neg]
  rw [Nat.pow_eq, Nat.not_le]
  omega

theorem timer_eq {total : ℕ} {r : Decimal} (hr : seconds.absolute = .ok r)
    (htotal : r.toIntegral.integerPart = total) (h : total < 10 ^ (defaultPrecision + 1)) :
    timer seconds = .ok (timerText (seconds.value < 0 ∧ total ≠ 0) (total / 3600) (total / 60 % 60)
      (total % 60)) := by
  have hsign : (seconds.isNegative && decide (total ≠ 0)) = decide (seconds.value < 0 ∧ total ≠ 0) := by
    rw [Bool.eq_iff_iff, Bool.and_eq_true, PluralOperands.isNegative_iff, decide_eq_true_iff, decide_eq_true_iff]
  have hminutes : total / 60 % 60 < 100 := by omega
  have hseconds : total % 60 < 100 := by omega
  rw [← hsign, timerText, ← twoDigits_eq hminutes, ← twoDigits_eq hseconds]
  simp only [timer, hr, Fault.arithmetic, htotal, write_hours h, Bind.bind, Except.bind]
  rfl

/-- What is shown on a timer is the nearest number of seconds, whatever is lost below the range of exponents. -/
theorem timer_spec {n : ℕ} {e : ℤ} (hn : n < 10 ^ defaultPrecision) (hdigits : |seconds.value| = n * 10 ^ e)
    (hlt : |seconds.value| < 10 ^ defaultPrecision) :
    ∃ total hours minutes rest : ℕ, NearestEven |seconds.value| 0 total ∧ Splits total hours minutes rest ∧
      timer seconds = .ok (timerText (seconds.value < 0 ∧ total ≠ 0) hours minutes rest) := by
  obtain ⟨r, hr, hnearest⟩ : ∃ r, seconds.absolute = .ok r ∧
      NearestEven |seconds.value| 0 r.toIntegral.integerPart := by
    rcases le_or_gt (tinyExponent defaultPrecision) e with he | he
    · obtain ⟨r, hr, hvalue, -⟩ :=
        exists_absolute (representable_of_digits hn he hdigits (hlt.trans_le pow_precision_le))
      refine ⟨r, hr, ?_⟩
      rw [← hvalue, value_eq_size (hvalue.symm ▸ abs_nonneg _)]
      exact nearestEven_toIntegral r
    · obtain ⟨r, hr, hsmall, hvalue⟩ := absolute_of_tiny hn he hdigits
      have hzero := (nearestEven_natCast_iff r.size_nonneg hsmall).mp (nearestEven_toIntegral r)
      exact ⟨r, hr, (nearestEven_natCast_iff (abs_nonneg _) hvalue).mpr hzero⟩
  have hmost : r.toIntegral.integerPart < 10 ^ (defaultPrecision + 1) := by
    obtain ⟨-, -, hnear, -⟩ := hnearest
    have habove := neg_le_abs (|seconds.value| - (r.toIntegral.integerPart : ℕ))
    have hone : (1 : ℚ) ≤ 10 ^ defaultPrecision := one_le_pow₀ (by norm_num)
    have hbound : (r.toIntegral.integerPart : ℚ) < 10 ^ (defaultPrecision + 1) := by
      rw [zpow_zero] at hnear
      rw [pow_succ]
      linarith
    exact_mod_cast hbound
  exact ⟨_, _, _, _, hnearest, splits_timer _, timer_eq hr rfl hmost⟩

/-! Durations. -/

/-- The style in lower case, where a missing one is long. -/
def durationStyle (style : Option String) : String :=
  Text.lowerString ((style.filter (!·.isEmpty)).getD "long")

/-- Durations whose seconds have no more digits than the precision and are below its power of ten. As units, where
none of the digits lies below the range of exponents, the parts add up to the duration, with its places; those that
are zero are left out, and the others are joined in order, after a minus sign for a negative duration. As a timer, the
parts add up to the nearest second, and there is a minus sign before a negative duration that does not come to
zero. -/
theorem duration_splits (context : Context) (g : Graph) {style : Option String} {value : Value}
    {seconds : Decimal} {n : ℕ} {e : ℤ} (hv : value.seconds? = .ok (some seconds))
    (hn : n < 10 ^ defaultPrecision) (hdigits : |seconds.value| = n * 10 ^ e)
    (hlt : |seconds.value| < 10 ^ defaultPrecision) :
    (durationStyle style ≠ "timer" → tinyExponent defaultPrecision ≤ e →
      ∃ hours minutes rest parts, Splits |seconds.value| hours minutes rest.value ∧
        (seconds.Fits → rest.places = seconds.places) ∧
        parts = (if seconds.value = 0 then [(secondUnit, Decimal.zero)] else shownParts hours minutes rest) ∧
        duration context g style value =
          (parts.mapM (durationPart context (durationWidth (durationStyle style))) >>= fun rendered =>
            joinItems context .unit (listWidth (durationWidth (durationStyle style))) rendered >>= fun text =>
              pure (if seconds.value < 0 then "-" ++ text else text))) ∧
    (durationStyle style = "timer" →
      ∃ total hours minutes rest : ℕ, NearestEven |seconds.value| 0 total ∧
        Splits total hours minutes rest ∧ duration context g style value =
          context.transliterate (timerText (seconds.value < 0 ∧ total ≠ 0) hours minutes rest)) := by
  have hduration : duration context g style value =
      if durationStyle style == "timer" then
        Outcome.ofFault (timer seconds) >>= fun text => context.transliterate text
      else
        Outcome.arithmetic (durationParts seconds) >>= fun parts =>
          parts.mapM (durationPart context (durationWidth (durationStyle style))) >>= fun rendered =>
            joinItems context .unit (listWidth (durationWidth (durationStyle style))) rendered >>= fun text =>
              pure (if seconds.isNegative then "-" ++ text else text) := by
    unfold duration
    rw [hv]
    rfl
  refine ⟨fun hstyle he => ?_, fun hstyle => ?_⟩
  · obtain ⟨hours, minutes, rest, hsplits, hplaces, hparts⟩ :=
      durationParts_spec (representable_of_digits hn he hdigits (hlt.trans_le pow_precision_le)) hlt
    refine ⟨hours, minutes, rest, _, hsplits, hplaces, rfl, ?_⟩
    rw [hduration, if_neg (by simpa using hstyle), hparts]
    simp only [← PluralOperands.isNegative_iff]
    exact Outcome.pure_bind _ _
  · obtain ⟨total, hours, minutes, rest, hnearest, hsplits, htimer⟩ := timer_spec hn hdigits hlt
    refine ⟨total, hours, minutes, rest, hnearest, hsplits, ?_⟩
    rw [hduration, if_pos (by simpa using hstyle), htimer]
    exact Outcome.pure_bind _ _

/-- A negative duration with half a second, as short units and on a timer. -/
theorem duration_splits_half : ∃ (value : Value) (seconds : Decimal) (hours minutes : ℕ) (rest : Decimal)
    (parts : List (String × Decimal)) (total hours' minutes' rest' : ℕ),
    value = .text "-PT1H23M44.50S" ∧ seconds = ⟨true, 502450, -2⟩ ∧
    value.seconds? = .ok (some seconds) ∧ |seconds.value| = (502450 : ℕ) * 10 ^ (-2 : ℤ) ∧
    Splits |seconds.value| hours minutes rest.value ∧ rest.places = 2 ∧
    parts = shownParts hours minutes rest ∧
    (duration englishContext {} (some "Short") value).result =
      .ok ("-1[decimal;1;~;~;g;~;symbol;~]@en hour; 23[decimal;1;~;~;g;~;symbol;~]@en minute & " ++
        "44.50[decimal;1;~;~;g;~;symbol;~]@en second") ∧
    NearestEven |seconds.value| 0 total ∧ Splits total hours' minutes' rest' ∧
    (duration englishContext {} (some "Timer") value).result = .ok "-1:23:44" := by
  let seconds : Decimal := ⟨true, 502450, -2⟩
  have hv : (Value.text "-PT1H23M44.50S").seconds? = .ok (some seconds) := by decide +kernel
  have hdigits : |seconds.value| = (502450 : ℕ) * 10 ^ (-2 : ℤ) := abs_value seconds
  have hlt : |seconds.value| < 10 ^ defaultPrecision := by
    rw [hdigits]
    norm_num [defaultPrecision]
  have hne : seconds.value ≠ 0 := by norm_num [seconds, Decimal.value, Decimal.size]
  obtain ⟨hours, minutes, rest, parts, hsplits, hplaces, hparts, -⟩ :=
    (duration_splits englishContext {} hv (by decide) hdigits hlt).1
      (by decide +kernel : durationStyle (some "Short") ≠ "timer") (by decide)
  obtain ⟨total, hours', minutes', rest', hnearest, hsplits', -⟩ :=
    (duration_splits englishContext {} hv (by decide) hdigits hlt).2
      (by decide +kernel : durationStyle (some "Timer") = "timer")
  exact ⟨_, seconds, hours, minutes, rest, parts, total, hours', minutes', rest', rfl, rfl, hv, hdigits, hsplits,
    hplaces (by decide), hparts.trans (if_neg hne), by decide +kernel, hnearest, hsplits', by decide +kernel⟩

/-- One digit below the range of exponents is lost: it is shown as zero seconds. -/
theorem duration_loses_tiny : ∃ (value : Value) (seconds : Decimal), value = .text "1e-1000027" ∧
    value.seconds? = .ok (some seconds) ∧ |seconds.value| = (1 : ℕ) * 10 ^ (-1000027 : ℤ) ∧
    |seconds.value| < 10 ^ defaultPrecision ∧ durationStyle none ≠ "timer" ∧
    durationParts seconds = .ok [(secondUnit, Decimal.zero)] ∧
    (duration englishContext {} none value).result = .ok "0[decimal;1;~;~;g;~;symbol;~]@en second" ∧
    ¬ ∃ hours minutes rest, Splits |seconds.value| hours minutes rest.value ∧
      durationParts seconds = .ok
        (if seconds.value = 0 then [(secondUnit, Decimal.zero)] else shownParts hours minutes rest) := by
  let seconds : Decimal := ⟨false, 1, -1000027⟩
  have hv : (Value.text "1e-1000027").seconds? = .ok (some seconds) := by decide +kernel
  have hdigits : |seconds.value| = (1 : ℕ) * 10 ^ (-1000027 : ℤ) := abs_value seconds
  have hpos : 0 < |seconds.value| := by
    rw [hdigits]
    positivity
  have hlt : |seconds.value| < 10 ^ defaultPrecision := by
    have hone : (10 : ℚ) ^ (-1000027 : ℤ) < 1 := zpow_lt_one_of_neg₀ (by norm_num) (by decide)
    have hmore : (1 : ℚ) ≤ 10 ^ defaultPrecision := one_le_pow₀ (by norm_num)
    rw [hdigits, Nat.cast_one, one_mul]
    exact hone.trans_le hmore
  have hparts : durationParts seconds = .ok [(secondUnit, Decimal.zero)] := by decide +kernel
  refine ⟨_, seconds, rfl, hv, hdigits, hlt, by decide +kernel, hparts, by decide +kernel, ?_⟩
  rintro ⟨hours, minutes, rest, -, h⟩
  rw [hparts, if_neg (abs_pos.mp hpos)] at h
  have hmem : (secondUnit, Decimal.zero) ∈ shownParts hours minutes rest := by
    rw [← Except.ok.inj h]
    exact List.mem_singleton_self _
  have hzero : Decimal.zero.value ≠ 0 := by simpa using (List.mem_filter.mp hmem).2
  exact hzero (value_of_isZero rfl)

end Format
end MessageFormat
