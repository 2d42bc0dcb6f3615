import MessageFormat.Proofs.Number.Magnitude
import MessageFormat.Proofs.Number.Sign

/-!
Scientific and engineering notation. A magnitude is taken apart into a mantissa and an exponent with no digit lost.
The locale data writes the mantissa as a plain number, and the exponent is put after it.
-/

set_option autoImplicit false

namespace MessageFormat
namespace Number

open Decimal Outcome
open MessageFormat.Locale (Context)

/-- One digit before the point, or up to three of them and an exponent in steps of three. -/
inductive Normalized (mantissa : ℚ) (exponent : ℤ) : Notation → Prop where
  | scientific (hl : 1 ≤ mantissa) (hu : mantissa < 10) : Normalized mantissa exponent .scientific
  | engineering (hl : 1 ≤ mantissa) (hu : mantissa < 1000) (hstep : 3 ∣ exponent) :
      Normalized mantissa exponent .engineering

/-- A magnitude in a notation with exponents. -/
structure TakenApart (form : Notation) (magnitude mantissa : ℚ) (exponent : ℤ) : Prop where
  exact : mantissa * 10 ^ exponent = magnitude
  normalized : magnitude ≠ 0 → Normalized mantissa exponent form
  zero : magnitude = 0 → exponent = 0

/-- The text of an exponent: a minus sign stands before the digits of a negative one. -/
inductive WritesExponent (minus : String) : ℤ → String → Prop where
  | natural (n : ℕ) : WritesExponent minus n (toString n)
  | negative (n : ℕ) (h : 0 < n) : WritesExponent minus (-n) (minus ++ toString n)

/-- What stands after the exponent. -/
def Spec.shareSign (spec : Spec) : String :=
  if spec.percent then "%" else if spec.permille then "‰" else ""

variable {context : Context} {spec : Spec} {locale : String} {magnitude cut m : Decimal} {l : Limited}

theorem negative_truncated (h : truncated spec magnitude = .ok cut) : cut.negative = magnitude.negative := by
  unfold truncated at h
  split at h
  · rw [← Except.ok.inj h]
  · rename_i most _
    cases hb : powerOfTen most with
    | error s =>
      rw [hb] at h
      cases h
    | ok b =>
      simp only [hb, Bind.bind, Except.bind, remainder] at h
      split at h
      · cases h
      · rename_i p hdivide
        exact (negative_finish h).trans (negative_of_divideWhole hdivide)

theorem value_mantissaOf (spec : Spec) (magnitude : Decimal) :
    (mantissaOf spec magnitude).value * 10 ^ exponentOf spec magnitude = magnitude.value := by
  have hsize : (mantissaOf spec magnitude).size * 10 ^ exponentOf spec magnitude = magnitude.size := by
    simp only [mantissaOf, size]
    rw [mul_assoc, ← zpow_add₀ (by norm_num), neg_add_cancel_right]
  have hsign : (mantissaOf spec magnitude).negative = magnitude.negative := rfl
  unfold value
  rw [hsign, ← hsize]
  split
  · ring
  · rfl

theorem dvd_exponentOf (h : spec.form = .engineering) (magnitude : Decimal) :
    3 ∣ exponentOf spec magnitude := by
  unfold exponentOf
  rw [if_pos h]
  exact Int.dvd_self_sub_emod

/-- The digits before the point are counted by the place of the first digit. -/
theorem normalized_mantissaOf (hform : spec.form.isScientific = true) (hz : magnitude.isZero = false) :
    Normalized (mantissaOf spec magnitude).size (exponentOf spec magnitude) spec.form := by
  have hz' : (mantissaOf spec magnitude).isZero = false := hz
  obtain ⟨hlow, hhigh⟩ := size_bounds hz'
  have hadjusted := adjusted_mantissaOf spec hz
  cases hspec : spec.form with
  | scientific =>
    rw [hspec, if_neg (by decide)] at hadjusted
    rw [hadjusted] at hlow hhigh
    exact .scientific (by simpa using hlow) (by simpa using hhigh)
  | engineering =>
    rw [hspec, if_pos rfl] at hadjusted
    obtain ⟨hleast, hmost⟩ := adjusted_mantissaOf_bounds spec hz
    have hone : (1 : ℚ) ≤ 10 ^ (mantissaOf spec magnitude).adjusted := one_le_zpow₀ (by norm_num) hleast
    have hthousand : (10 : ℚ) ^ ((mantissaOf spec magnitude).adjusted + 1) ≤ 10 ^ (3 : ℤ) :=
      zpow_le_zpow_right₀ (by norm_num) (by omega)
    refine .engineering (hone.trans hlow) ?_ (dvd_exponentOf hspec magnitude)
    exact hhigh.trans_le (hthousand.trans_eq (by norm_num))
  | _ =>
    rw [hspec] at hform
    cases hform

theorem takenApart_mantissaOf (hform : spec.form.isScientific = true) (hsign : magnitude.negative = false) :
    TakenApart spec.form magnitude.value (mantissaOf spec magnitude).value (exponentOf spec magnitude) := by
  refine ⟨value_mantissaOf spec magnitude, fun hne => ?_, fun hzero => ?_⟩
  · have hpositive : (mantissaOf spec magnitude).negative = false := hsign
    rw [value_of_positive hpositive]
    refine normalized_mantissaOf hform ?_
    rw [← Bool.not_eq_true, isZero_iff_value_eq_zero]
    exact hne
  · exact (mantissaOf_of_isZero spec ((isZero_iff_value_eq_zero magnitude).mpr hzero)).1

theorem writesExponent (minus : String) (e : ℤ) :
    WritesExponent minus e (if e < 0 then minus ++ toString e.natAbs else toString e) := by
  by_cases h : e < 0
  · rw [if_pos h]
    have hneg : e = -(e.natAbs : ℤ) := by omega
    nth_rewrite 1 [hneg]
    exact .negative e.natAbs (by omega)
  · obtain ⟨n, rfl⟩ := Int.eq_ofNat_of_zero_le (Int.not_lt.mp h)
    rw [if_neg h]
    exact .natural n

/-- The options for a mantissa: those of the magnitude, for a plain number without groups. -/
def mantissaOptions (spec : Spec) (l : Limited) : RenderOptions :=
  { optionsOf spec l with style := .decimal, grouping := false }

theorem renderMagnitude_of_scientific (hform : spec.form.isScientific = true) (hfits : l.magnitude.Fits) :
    renderMagnitude context spec locale l =
      context.ask (.formatNumber (mantissaOf spec l.magnitude) (mantissaOptions spec l)) locale >>= fun text =>
        context.numberSymbols >>= fun symbols => pure (text ++ symbols.exponential ++
          (if exponentOf spec l.magnitude < 0 then symbols.minus ++ toString (exponentOf spec l.magnitude).natAbs
            else toString (exponentOf spec l.magnitude)) ++ spec.shareSign) := by
  rw [renderMagnitude, if_pos hform, renderScientific]
  dsimp only
  rw [scaleb_mantissaOf spec hfits]
  exact Outcome.pure_bind _ _

/-- The mantissa, the symbol and the exponent. -/
theorem exists_renderMagnitude (hform : spec.form.isScientific = true) (hfits : l.magnitude.Fits)
    (ha : ∀ locale, context.backend.Answers locale) (locale : String) :
    ∃ text symbols written, context.backend.answer
        (.formatNumber (mantissaOf spec l.magnitude) (mantissaOptions spec l)) locale = .ok text ∧
      context.numberSymbols.result = .ok symbols ∧
      WritesExponent symbols.minus (exponentOf spec l.magnitude) written ∧
      (renderMagnitude context spec locale l).result =
        .ok (text ++ symbols.exponential ++ written ++ spec.shareSign) := by
  obtain ⟨text, htext⟩ :=
    ha locale (.formatNumber (mantissaOf spec l.magnitude) (mantissaOptions spec l))
  obtain ⟨symbols, hsymbols⟩ :=
    not_fails_iff.mp (Locale.Context.not_fails_numberSymbols (degrades_of_answers ha))
  refine ⟨text, symbols, _, htext, hsymbols, writesExponent _ _, ?_⟩
  rw [renderMagnitude_of_scientific hform hfits, Format.ask_of_answer htext]
  exact (result_bind rfl).trans (result_bind hsymbols)

/-- No suffix of an ordinal follows an exponent. -/
theorem decorate_of_scientific (hform : spec.form.isScientific = true) (number : Decimal) (text : String) :
    decorate context spec number l text = context.numberSymbols >>= fun symbols =>
      context.transliterate (withSign spec.sign symbols number.isNegative l.magnitude.isZero text) := by
  rw [decorate, hform, if_neg (by simp)]
  refine (Outcome.pure_bind _ _).trans ?_
  simp only [String.append_empty]

theorem hands_renderMagnitude_of_scientific (hform : spec.form.isScientific = true)
    (hfits : l.magnitude.Fits) :
    (renderMagnitude context spec locale l).Hands m ↔ m = mantissaOf spec l.magnitude := by
  rw [renderMagnitude_of_scientific hform hfits, hands_bind_iff, hands_ask_iff, Locale.Request.magnitude?,
    Option.some.injEq, eq_comm, or_iff_left_iff_imp]
  rintro ⟨text, -, h⟩
  rcases hands_bind_iff.mp h with h | ⟨symbols, -, h⟩
  · exact (Locale.Context.not_hands_numberSymbols h).elim
  · exact (not_hands_pure _ h).elim

end Number

namespace Format

open Outcome
open Number (Spec)
open MessageFormat.Locale (Context)

/-- With locale data that answers every request, in scientific or engineering notation, where the scaled number has
a magnitude after its integer part is cut. This magnitude is taken apart exactly, and its mantissa is all that is
handed over. The text of the mantissa, the symbol for exponents, the exponent and the sign of a share are put
together; then the marks of the sign policy are put around them and the digits are replaced. -/
theorem numberWith_takenApart {context : Context} {spec : Spec} {locale : String} {value : Value}
    {number s cut : Decimal} (ha : ∀ locale, context.backend.Answers locale) (g : Graph)
    (hform : spec.form.isScientific = true) (hl : spec.isLiteralFallback = false)
    (hlocale : Number.localeOf context spec = some locale) (hv : value.decimal? = some number)
    (hs : Number.scaled spec number = .ok s) (hcut : Number.truncated spec s.magnitude = .ok cut) :
    ∃ mantissa exponent text symbols written out shown,
      Number.TakenApart spec.form cut.value mantissa.value exponent ∧
      (∀ m, (numberWith context g spec value).Hands m ↔ m = mantissa) ∧
      context.backend.answer (.formatNumber mantissa
        (Number.mantissaOptions spec ⟨cut, spec.minFraction, spec.maxFraction⟩)) locale = .ok text ∧
      context.numberSymbols.result = .ok symbols ∧ Number.WritesExponent symbols.minus exponent written ∧
      Number.Decorates symbols s.value cut.value
        (text ++ symbols.exponential ++ written ++ spec.shareSign) spec.sign out ∧
      (context.transliterate out).result = .ok shown ∧
      (numberWith context g spec value).result = .ok shown := by
  have hfits := Number.fits_of_truncated (Number.fits_of_scaled hs).magnitude hcut
  have hlimited := Number.limited_of_scientific hform cut
  have hsign : cut.negative = false := Number.negative_truncated hcut
  obtain ⟨text, symbols, written, htext, hsymbols, hwritten, hrendered⟩ :=
    Number.exists_renderMagnitude (l := ⟨cut, spec.minFraction, spec.maxFraction⟩) hform hfits ha locale
  obtain ⟨calls, replace, hreplace⟩ := Number.exists_transliterate ha
  refine ⟨Number.mantissaOf spec cut, Number.exponentOf spec cut, text, symbols, written, _, _,
    Number.takenApart_mantissaOf hform hsign, fun m => ?_, htext, hsymbols, hwritten,
    Number.decorates_withSign (PluralOperands.isNegative_iff s) (Decimal.isZero_iff_value_eq_zero _) _ _,
    congrArg Outcome.result (hreplace _), ?_⟩
  · rw [numberWith_eq_renderAt g hl hlocale hv, Number.hands_renderAt_iff]
    constructor
    · rintro ⟨s', cut', l', hs', hcut', hl', h⟩
      obtain rfl : s = s' := Except.ok.inj (hs.symm.trans hs')
      obtain rfl : cut = cut' := Except.ok.inj (hcut.symm.trans hcut')
      obtain rfl := Except.ok.inj (hlimited.symm.trans hl')
      exact (Number.hands_renderMagnitude_of_scientific hform hfits).mp h
    · rintro rfl
      exact ⟨s, cut, _, hs, hcut, hlimited, (Number.hands_renderMagnitude_of_scientific hform hfits).mpr rfl⟩
  · have hrendering : (Number.rendering context spec locale ⟨cut, spec.minFraction, spec.maxFraction⟩).result =
        .ok (some (text ++ symbols.exponential ++ written ++ spec.shareSign)) := by
      rw [Number.result_rendering (Number.degrades_of_answers ha), hrendered]
      rfl
    rw [numberWith_eq_renderAt g hl hlocale hv, Number.result_renderAt hs hcut hlimited hrendering,
      Number.decorate_of_scientific hform, result_bind hsymbols, hreplace]

/-- A negative permille that is cut to three integer digits, all of them zeros. -/
theorem numberWith_takenApart_permille : ∃ (spec : Spec) (d cut mantissa : Decimal),
    spec = Spec.ofSkeleton "::engineering permille integer-width/##0 sign-accounting".toList ∧
    d = ⟨true, 10000000120345, -10⟩ ∧ cut = ⟨false, 120345000, -10⟩ ∧ mantissa = ⟨false, 120345000, -7⟩ ∧
    (∀ locale, englishContext.backend.Answers locale) ∧ spec.form.isScientific = true ∧
    spec.isLiteralFallback = false ∧ Number.localeOf englishContext spec = some "en" ∧
    Number.TakenApart .engineering cut.value mantissa.value (-3) ∧
    (∀ m, (numberWith englishContext {} spec (.decimal (.finite d))).Hands m ↔ m = mantissa) ∧
    (numberWith englishContext {} spec (.decimal (.finite d))).result =
      .ok "(12.0345000[decimal;1;~;~;-;~;symbol;~]@enE-3‰)" := by
  let spec := Spec.ofSkeleton "::engineering permille integer-width/##0 sign-accounting".toList
  let d : Decimal := ⟨true, 10000000120345, -10⟩
  let cut : Decimal := ⟨false, 120345000, -10⟩
  have hform : spec.form = .engineering := by decide +kernel
  have hl : spec.isLiteralFallback = false := by decide +kernel
  have hlocale : Number.localeOf englishContext spec = some "en" := by decide +kernel
  obtain ⟨mantissa, exponent, _, _, _, _, _, htaken, hhands, -⟩ :=
    numberWith_takenApart answers_english {} (by rw [hform]; rfl) hl hlocale
      (by decide +kernel : (Value.decimal (.finite d)).decimal? = some d)
      (by decide +kernel : Number.scaled spec d = .ok ⟨true, 10000000120345000, -10⟩)
      (by decide +kernel : Number.truncated spec ⟨false, 10000000120345000, -10⟩ = .ok cut)
  have hmantissa : (⟨false, 120345000, -7⟩ : Decimal) = mantissa := by
    rw [← hhands]
    unfold Hands
    decide +kernel
  rw [← hmantissa] at htaken hhands
  have hexponent : exponent = -3 := by
    have hexact := htaken.exact
    have hshift : cut.value = Decimal.value ⟨false, 120345000, -7⟩ * 10 ^ (-3 : ℤ) := by
      norm_num [cut, Decimal.value, Decimal.size]
    have hne : Decimal.value ⟨false, 120345000, -7⟩ ≠ 0 := by norm_num [Decimal.value, Decimal.size]
    rw [hshift, mul_right_inj' hne] at hexact
    exact zpow_right_injective₀ (by norm_num) (by norm_num) hexact
  rw [hexponent, hform] at htaken
  exact ⟨spec, d, cut, _, rfl, rfl, rfl, rfl, answers_english, by rw [hform]; rfl, hl, hlocale, htaken, hhands,
    by decide +kernel⟩

end Format
end MessageFormat
