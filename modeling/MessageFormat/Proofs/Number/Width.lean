import MessageFormat.Proofs.Number.Coherence
import MessageFormat.Proofs.Number.Magnitude
import MessageFormat.Proofs.Number.Plain

/-!
How wide a magnitude is rendered. Integer digits past the greatest width are cut off exactly; but a value that is
rounded after that can come to the power of ten that the width excludes.
-/

set_option autoImplicit false

namespace MessageFormat

namespace Number

open Decimal

variable {spec : Spec} {magnitude cut : Decimal} {l : Limited} {most : Nat} {e : ℤ}

/-- What is cut off is a multiple of the power of ten of the width. -/
theorem truncated_spec (hm : spec.maxInteger = some most) (hfits : magnitude.Fits)
    (h : truncated spec magnitude = .ok cut) : (most : ℤ) ≤ maxExponent ∧ cut.Fits ∧
      cut.size < 10 ^ most ∧ ∃ k : ℕ, magnitude.size = k * 10 ^ most + cut.size := by
  have hmost : (most : ℤ) ≤ maxExponent := by
    by_contra hlt
    obtain ⟨s, hs⟩ := truncated_eq_error_iff.mpr ⟨most, hm, .inl (Int.not_le.mp hlt)⟩
    rw [hs] at h
    cases h
  obtain ⟨bound, hbound, hsize, hz, hboundFits⟩ := powerOfTen_eq_ok hmost
  have hremainder : magnitude.remainder bound = .ok cut := by
    simp only [truncated, hm, hbound, Bind.bind, Except.bind] at h
    exact h
  obtain ⟨k, hdivides⟩ := divides_of_remainder hfits hboundFits hz hremainder
  rw [← hsize]
  exact ⟨hmost, hdivides.fits hfits hboundFits hz, hdivides.lt, k, hdivides.size_eq⟩

/-! Limits of the digits. -/

/-- The exponent of the last digit that is kept of a magnitude with so many integer digits; a number of them
that is not positive counts the zeros after the point. -/
def Spec.lastPlace (spec : Spec) (width : ℤ) : Option ℤ :=
  match spec.maxSignificant, spec.maxFraction with
  | some most, _ => some (width - (max 1 most : ℕ))
  | none, some most => some (-most)
  | none, none => none

theorem lastPlace_lt {width n : ℤ} (h : spec.lastPlace width = some e) (hwidth : width ≤ n) (hn : 0 < n) :
    e < n := by
  unfold Spec.lastPlace at h
  split at h <;> cases h <;> omega

theorem half_unit_lt {n : ℕ} (h : e < n) : 1 / 2 * (10 : ℚ) ^ e < 10 ^ n := by
  have hpos : (0 : ℚ) < 10 ^ e := by positivity
  have hlt : (10 : ℚ) ^ e < 10 ^ (n : ℤ) := zpow_lt_zpow_right₀ (by norm_num) h
  rw [zpow_natCast] at hlt
  linarith

theorem adjusted_lt {n : ℕ} (hz : cut.isZero = false) (h : cut.size < 10 ^ n) : cut.adjusted < n := by
  have hlt := (size_bounds hz).1.trans_lt h
  rwa [← zpow_natCast, zpow_lt_zpow_iff_right₀ (by norm_num)] at hlt

/-- What is within half a unit of a power of ten has all integer digits below it. -/
theorem adjusted_of_reach {n : ℕ} (hz : cut.isZero = false) (hcut : cut.size < 10 ^ n) (he : e < n)
    (h : (10 : ℚ) ^ n - 1 / 2 * 10 ^ e ≤ cut.size) : cut.adjusted + 1 = n := by
  by_contra hne
  have hadjusted := adjusted_lt hz hcut
  have hbelow : (10 : ℚ) ^ (cut.adjusted + 1) ≤ 10 ^ ((n : ℤ) - 1) :=
    zpow_le_zpow_right₀ (by norm_num) (by omega)
  have hunit : (10 : ℚ) ^ e ≤ 10 ^ ((n : ℤ) - 1) := zpow_le_zpow_right₀ (by norm_num) (by omega)
  have hpower : (10 : ℚ) ^ n = 10 ^ ((n : ℤ) - 1) * 10 := by
    rw [← zpow_add_one₀ (by norm_num), sub_add_cancel, zpow_natCast]
  have hpos : (0 : ℚ) < 10 ^ ((n : ℤ) - 1) := by positivity
  have hsize := (size_bounds hz).2
  linarith

theorem limited_eq_error {s : Signal} (h : limitDigits spec magnitude = .error s)
    (hl : limited spec magnitude = .ok l) : l.magnitude = magnitude := by
  rw [limited, h] at hl
  cases s with
  | overflow => cases hl
  | invalidOperation | divisionImpossible => rw [← Except.ok.inj hl]

theorem limited_eq_ok {l' : Limited} (h : limitDigits spec magnitude = .ok l')
    (hl : limited spec magnitude = .ok l) : l = l' := by
  rw [limited, h] at hl
  exact (Except.ok.inj hl).symm

section NotScientific

variable (hform : spec.form.isScientific = false)
include hform

/-- Significant digits are rounded to, or what cannot be rounded stays as it is. -/
theorem limited_of_significant (h : spec.maxSignificant = some most) (hl : limited spec magnitude = .ok l) :
    (∃ r, roundSignificant magnitude (max 1 (spec.minSignificant.getD 1)) (max 1 most) = .ok r ∧
      l.magnitude = r.value) ∨
    (∃ s, roundSignificant magnitude (max 1 (spec.minSignificant.getD 1)) (max 1 most) = .error s) ∧
      l.magnitude = magnitude := by
  cases hr : roundSignificant magnitude (max 1 (spec.minSignificant.getD 1)) (max 1 most) with
  | error s =>
    have hlimit : limitDigits spec magnitude = .error s := by
      simp only [limitDigits, hform, h, hr, Bool.false_eq_true, if_false]
      rfl
    exact .inr ⟨⟨s, rfl⟩, limited_eq_error hlimit hl⟩
  | ok r =>
    have hlimit : limitDigits spec magnitude = .ok ⟨r.value, some r.minFraction, some r.maxFraction⟩ := by
      simp only [limitDigits, hform, h, hr, Bool.false_eq_true, if_false]
      rfl
    exact .inl ⟨r, rfl, by rw [limited_eq_ok hlimit hl]⟩

/-- And so are places, where there are no significant digits to round to. -/
theorem limited_of_fraction (hs : spec.maxSignificant = none) (h : spec.maxFraction = some most)
    (hl : limited spec magnitude = .ok l) :
    roundPlaces magnitude most = .ok l.magnitude ∨
      (∃ s, roundPlaces magnitude most = .error s) ∧ l.magnitude = magnitude := by
  cases hq : roundPlaces magnitude most with
  | error s =>
    have hlimit : limitDigits spec magnitude = .error s := by
      simp only [limitDigits, hform, hs, h, hq, Bool.false_eq_true, if_false]
      rfl
    exact .inr ⟨⟨s, rfl⟩, limited_eq_error hlimit hl⟩
  | ok q =>
    have hlimit : limitDigits spec magnitude = .ok ⟨q, spec.minFraction, some most⟩ := by
      simp only [limitDigits, hform, hs, h, hq, Bool.false_eq_true, if_false]
      rfl
    exact .inl (by rw [limited_eq_ok hlimit hl])

/-- Without limits nothing is rounded. -/
theorem limited_of_no_limits (hs : spec.maxSignificant = none) (h : spec.maxFraction = none)
    (hl : limited spec magnitude = .ok l) : l.magnitude = magnitude := by
  have hlimit : limitDigits spec magnitude = .ok ⟨magnitude, spec.minFraction, none⟩ := by
    simp only [limitDigits, hform, hs, h, Bool.false_eq_true, if_false]
  rw [limited_eq_ok hlimit hl]

/-- What is not zero is rounded to its last place, if it has one, or it is refused there and stays as it is. -/
theorem limited_lastPlace (hz : magnitude.isZero = false) (hl : limited spec magnitude = .ok l) :
    (∃ e q, spec.lastPlace (magnitude.adjusted + 1) = some e ∧ roundPlaces magnitude (-e) = .ok q ∧
      l.magnitude.size = q.size) ∨
    (∀ e, spec.lastPlace (magnitude.adjusted + 1) = some e → ∃ s, roundPlaces magnitude (-e) = .error s) ∧
      l.magnitude.size = magnitude.size := by
  unfold Spec.lastPlace
  split
  · rename_i most hs
    have hplaces : ((max 1 most : ℕ) : ℤ) - magnitude.adjusted - 1 =
        -(magnitude.adjusted + 1 - (max 1 most : ℕ)) := by omega
    have hround := roundSignificant_eq hz (max 1 (spec.minSignificant.getD 1)) (max 1 most)
    rw [hplaces] at hround
    rcases hround with ⟨s, hq, herror⟩ | ⟨q, r, hq, hr, hsize, -⟩
    · rcases limited_of_significant hform hs hl with ⟨r, hr, -⟩ | ⟨-, hl⟩
      · rw [herror] at hr
        cases hr
      · exact .inr ⟨fun e he => ⟨s, Option.some.inj he ▸ hq⟩, by rw [hl]⟩
    · rcases limited_of_significant hform hs hl with ⟨r', hr', hl⟩ | ⟨⟨s, herror⟩, -⟩
      · obtain rfl : r = r' := Except.ok.inj (hr.symm.trans hr')
        exact .inl ⟨_, q, rfl, hq, by rw [hl, hsize]⟩
      · rw [hr] at herror
        cases herror
  · rename_i most hs hfraction
    rcases limited_of_fraction hform hs hfraction hl with hq | ⟨⟨s, herror⟩, hl⟩
    · exact .inl ⟨_, l.magnitude, rfl, by rwa [neg_neg], rfl⟩
    · refine .inr ⟨fun e he => ⟨s, ?_⟩, by rw [hl]⟩
      rwa [← Option.some.inj he, neg_neg]
  · rename_i hs hfraction
    exact .inr ⟨fun e he => (by cases he), by rw [limited_of_no_limits hform hs hfraction hl]⟩

theorem size_limited_of_isZero (hz : magnitude.isZero = true) (hl : limited spec magnitude = .ok l) :
    l.magnitude.size = 0 := by
  have hzero := size_of_isZero hz
  cases hs : spec.maxSignificant with
  | some most =>
    rcases limited_of_significant hform hs hl with ⟨r, hr, hl⟩ | ⟨-, hl⟩
    · rw [roundSignificant, if_pos hz] at hr
      rw [hl, ← Except.ok.inj hr]
      exact size_of_isZero rfl
    · rw [hl, hzero]
  | none =>
    cases hfraction : spec.maxFraction with
    | none => rw [limited_of_no_limits hform hs hfraction hl, hzero]
    | some most =>
      rcases limited_of_fraction hform hs hfraction hl with hq | ⟨-, hl⟩
      · rw [(of_roundPlaces hq).1, roundedAt_of_isZero hz]
        exact size_of_isZero hz
      · rw [hl, hzero]

/-- A magnitude that is below a power of ten does not pass it, and reaches it just if no more than half a unit of
its last place is missing. -/
theorem pow_le_limited_iff {n : ℕ} (hpos : 0 < n) (hn : (n : ℤ) ≤ maxExponent) (hfits : cut.Fits)
    (hcut : cut.size < 10 ^ n) (hl : limited spec cut = .ok l) : l.magnitude.size ≤ 10 ^ n ∧
      (10 ^ n ≤ l.magnitude.size ↔
        ∃ e, spec.lastPlace n = some e ∧ (10 : ℚ) ^ n - 1 / 2 * 10 ^ e ≤ cut.size) := by
  have hpower : (0 : ℚ) < 10 ^ n := by positivity
  by_cases hz : cut.isZero = true
  · rw [size_limited_of_isZero hform hz hl, size_of_isZero hz]
    refine ⟨hpower.le, iff_of_false (by linarith) ?_⟩
    rintro ⟨e, he, hreach⟩
    have hunit := half_unit_lt (lastPlace_lt he le_rfl (by omega))
    linarith
  have hz' : cut.isZero = false := by simpa using hz
  have hwide {e : ℤ} (he : e < n) (h : (10 : ℚ) ^ n - 1 / 2 * 10 ^ e ≤ cut.size) :=
    adjusted_of_reach hz' hcut he h
  rcases limited_lastPlace hform hz' hl with ⟨e, q, he, hq, hsize⟩ | ⟨hrefused, hsize⟩
  · have hlt := lastPlace_lt he (adjusted_lt hz' hcut) (by omega)
    have hreach := pow_le_size_roundPlaces_iff hq (n := n) (by omega) (by omega)
    have hle := size_roundPlaces_le hq (n := n) (by omega) (by omega)
    rw [neg_neg, zpow_natCast] at hreach
    rw [zpow_natCast] at hle
    rw [hsize]
    refine ⟨hle hcut.le, hreach.trans ⟨fun h => ⟨e, ?_, h⟩, ?_⟩⟩
    · rwa [← hwide hlt h]
    · rintro ⟨e', he', h⟩
      rw [← hwide (lastPlace_lt he' le_rfl (by omega)) h, he] at he'
      rwa [Option.some.inj he']
  · rw [hsize]
    refine ⟨hcut.le, iff_of_false (not_le.mpr hcut) ?_⟩
    rintro ⟨e, he, h⟩
    have hlt := lastPlace_lt he le_rfl (by omega)
    obtain ⟨s, hs⟩ := hrefused e (by rwa [hwide hlt h])
    obtain ⟨q, hq⟩ := exists_roundPlaces (-e) (n := n) hfits.1 hn (by omega) (by rwa [zpow_natCast])
    rw [hs] at hq
    cases hq

end NotScientific

namespace Spec

/-- A greatest width allows at least one digit. -/
theorem maxInteger_pos {s : List Char} (h : (ofSkeleton s).maxInteger = some most) : 0 < most := by
  obtain ⟨word, hword⟩ := exists_lastWrites .maxInteger (h.trans_ne (Option.some_ne_none _))
  obtain ⟨token, hspells, hwrites, hget⟩ := token_of_lastWrites hword
  cases token with
  | integerWidth least most' =>
    have hmost : (ofSkeleton s).maxInteger = most' := hget .maxInteger _ id rfl
    rw [hmost] at h
    subst h
    cases hspells with
    | keyword h => cases Token.not_mem_keywords h
    | integerWidth hpos => exact hpos
  | _ => exact absurd rfl hwrites

end Spec
end Number

namespace Format

open Outcome
open Number (Spec)
open MessageFormat.Locale (Context)

/-- Under a skeleton with a greatest width, in a notation without exponents. A magnitude is handed over for each
number that can be scaled and cut, where there is a locale; the cut takes away a multiple of the power of ten of
the width, and leaves less than this power. Rounding after that does not pass the power, whatever limits there
are. The magnitude is below it but for one case: where digits are limited and no more than half a unit of the last
place below the power is missing, it is the power itself, which has a digit more than the width. -/
theorem numberWith_within_width (s : List Char) (context : Context) (g : Graph) (value : Value) {most : Nat}
    (hm : (Spec.ofSkeleton s).maxInteger = some most)
    (hform : (Spec.ofSkeleton s).form.isScientific = false) :
    0 < most ∧
    (∀ number scaled cut locale, value.decimal? = some number →
      Number.localeOf context (Spec.ofSkeleton s) = some locale →
      Number.scaled (Spec.ofSkeleton s) number = .ok scaled →
      Number.truncated (Spec.ofSkeleton s) scaled.magnitude = .ok cut →
      ∃ magnitude, (numberWith context g (Spec.ofSkeleton s) value).Hands magnitude) ∧
    ∀ magnitude, (numberWith context g (Spec.ofSkeleton s) value).Hands magnitude →
      ∃ number scaled cut, value.decimal? = some number ∧
        Number.scaled (Spec.ofSkeleton s) number = .ok scaled ∧
        Number.truncated (Spec.ofSkeleton s) scaled.magnitude = .ok cut ∧
        (∃ k : ℕ, scaled.size = k * 10 ^ most + cut.size) ∧ cut.size < 10 ^ most ∧
        magnitude.size ≤ 10 ^ most ∧
        (magnitude.size < 10 ^ most ↔ ∀ e, (Spec.ofSkeleton s).lastPlace most = some e →
          cut.size < (10 : ℚ) ^ most - 1 / 2 * 10 ^ e) := by
  have hpos := Spec.maxInteger_pos hm
  refine ⟨hpos, fun number scaled cut locale hv hlocale hs hcut => ?_, fun magnitude h => ?_⟩
  · obtain ⟨-, hfits, -⟩ := Number.truncated_spec hm (Number.fits_of_scaled hs).magnitude hcut
    obtain ⟨l, hl, -⟩ := Number.limited_spec (Spec.ofSkeleton s) hfits.2.1
    exact ⟨l.magnitude, (hands_numberWith_iff hform).mpr ⟨number, scaled, cut, l, hv,
      Spec.isLiteralFallback_eq_false .maxInteger (by decide)
        (hm.trans_ne (Option.some_ne_none _)), ⟨locale, hlocale⟩, hs, hcut, hl, rfl⟩⟩
  · obtain ⟨number, scaled, cut, l, hv, -, -, hs, hcut, hl, rfl⟩ := (hands_numberWith_iff hform).mp h
    obtain ⟨hmost, hfits, hlt, hwhole⟩ := Number.truncated_spec hm (Number.fits_of_scaled hs).magnitude hcut
    obtain ⟨hle, hreach⟩ := Number.pow_le_limited_iff hform hpos hmost hfits hlt hl
    refine ⟨number, scaled, cut, hv, hs, hcut, hwhole, hlt, hle, ?_⟩
    rw [← not_le, hreach]
    push Not
    rfl

/-- Four integer digits are cut to two, and what is rounded after that stays below a hundred. -/
theorem numberWith_within_width_rounded : ∃ (s : List Char) (value : Value) (magnitude : Decimal),
    s = "integer-width/00 .0".toList ∧ value = .decimal (.finite ⟨true, 1299949, -3⟩) ∧
    (Spec.ofSkeleton s).maxInteger = some 2 ∧ (Spec.ofSkeleton s).form.isScientific = false ∧
    (numberWith englishContext {} (Spec.ofSkeleton s) value).Hands magnitude ∧ magnitude.size < 10 ^ 2 := by
  let s := "integer-width/00 .0".toList
  let value : Value := .decimal (.finite ⟨true, 1299949, -3⟩)
  have hm : (Spec.ofSkeleton s).maxInteger = some 2 := by decide +kernel
  have hform : (Spec.ofSkeleton s).form.isScientific = false := by decide +kernel
  have hnumber : value.decimal? = some ⟨true, 1299949, -3⟩ := by decide +kernel
  have hscaled : Number.scaled (Spec.ofSkeleton s) ⟨true, 1299949, -3⟩ = .ok ⟨true, 1299949, -3⟩ := by
    decide +kernel
  have hcut : Number.truncated (Spec.ofSkeleton s) (Decimal.magnitude ⟨true, 1299949, -3⟩) =
      .ok ⟨false, 99949, -3⟩ := by decide +kernel
  have hplace : (Spec.ofSkeleton s).lastPlace 2 = some (-1) := by decide +kernel
  obtain ⟨-, hhanded, hwithin⟩ := numberWith_within_width s englishContext {} value hm hform
  obtain ⟨magnitude, hmagnitude⟩ := hhanded _ _ _ "en" hnumber (by decide +kernel) hscaled hcut
  obtain ⟨number, scaled, cut, hnumber', hscaled', hcut', -, -, -, hlt⟩ := hwithin magnitude hmagnitude
  obtain rfl : _ = number := Option.some.inj (hnumber.symm.trans hnumber')
  obtain rfl : _ = scaled := Except.ok.inj (hscaled.symm.trans hscaled')
  obtain rfl : _ = cut := Except.ok.inj (hcut.symm.trans hcut')
  refine ⟨s, value, magnitude, rfl, rfl, hm, hform, hmagnitude, hlt.mpr fun e he => ?_⟩
  obtain rfl : -1 = e := Option.some.inj (hplace.symm.trans he)
  norm_num [Decimal.size]

/-- Rounding brings two integer digits to three, past the greatest width. -/
theorem numberWith_width_carries : ∃ (s : List Char) (value : Value) (magnitude : Decimal),
    s = "integer-width/00 precision-integer".toList ∧ value = .decimal (.finite ⟨false, 999, -1⟩) ∧
    (Spec.ofSkeleton s).maxInteger = some 2 ∧ (Spec.ofSkeleton s).form.isScientific = false ∧
    (numberWith englishContext {} (Spec.ofSkeleton s) value).Hands magnitude ∧
    ¬ magnitude.size < 10 ^ 2 ∧ (numberWith englishContext {} (Spec.ofSkeleton s) value).result =
      .ok "100[decimal;2;0;0;g;~;symbol;~]@en" := by
  have hform : (Spec.ofSkeleton "integer-width/00 precision-integer".toList).form.isScientific = false := by
    decide +kernel
  refine ⟨_, _, ⟨false, 100, 0⟩, rfl, rfl, by decide +kernel, hform, ?_, by norm_num [Decimal.size],
    by decide +kernel⟩
  exact (hands_numberWith_iff hform).mpr ⟨⟨false, 999, -1⟩, ⟨false, 999, -1⟩, ⟨false, 999, -1⟩,
    ⟨⟨false, 100, 0⟩, some 0, some 0⟩, by decide +kernel, by decide +kernel, ⟨"en", by decide +kernel⟩,
    by decide +kernel, by decide +kernel, by decide +kernel, rfl⟩

end Format
end MessageFormat
