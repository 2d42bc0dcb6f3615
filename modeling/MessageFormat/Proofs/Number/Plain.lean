import MessageFormat.Proofs.Decimal.Kept
import MessageFormat.Proofs.Number.Failure
import MessageFormat.Proofs.Plural.Visible

/-!
Numbers in the default form. The magnitude is rendered without limits on its digits, and sign and digits of the
locale are put on it; but the value is rounded to the working precision before.
-/

set_option autoImplicit false

namespace MessageFormat

namespace Decimal

variable {d r : Decimal} {precision : Nat}

theorem multiply_one (d : Decimal) : d.multiply one = finish d := by
  have hsign : (d.negative != false) = d.negative := by cases d.negative <;> rfl
  rw [multiply, one, ofNat, Nat.mul_one, Int.add_zero, hsign]

/-- A result has the sign of what it is the result of, unless it is zero. -/
theorem isNegative_of_finish (h : finish d precision = .ok r) :
    r.isNegative = true ↔ d.value < 0 ∧ r.isZero = false := by
  rw [← PluralOperands.isNegative_iff]
  have hsign := negative_finish h
  rcases finish_eq_ok h with ⟨hd, hr, -⟩ | ⟨hd, -, -⟩
  · simp [isNegative, hd, hr]
  · simp [isNegative, hd, hsign]

/-- The magnitude of a result has the size and the places of a decimal just if nothing of it is lost. -/
theorem magnitude_kept_iff : (∃ r, finish d = .ok r ∧ r.magnitude.value = |d.value| ∧ r.places = d.places) ↔
    d.Kept := by
  rw [← finish_kept_iff defaultPrecision_pos]
  refine exists_congr fun r => and_congr_right fun h => and_congr_left fun _ => ?_
  have hmagnitude : r.magnitude.value = r.size := rfl
  rw [hmagnitude, abs_value, value_eq_iff_size_eq (negative_finish h)]

end Decimal

/-- The backend answers each request about this locale. -/
def Locale.Backend.Answers (b : Locale.Backend) (locale : String) : Prop :=
  ∀ request, ∃ answer, b.answer request locale = .ok answer

namespace Format

open MessageFormat.Locale (Context)

variable {context : Context} {value : Value} {d r : Decimal} {locale : String}

theorem ask_of_answer {request : Locale.Request} {answer : request.Answer}
    (h : context.backend.answer request locale = .ok answer) :
    context.ask request locale = ⟨[⟨request, locale⟩], .ok answer⟩ := by
  rw [Context.ask, Outcome.ask, h]
  rfl

theorem scaled_default (d : Decimal) : Number.scaled {} d = Decimal.finish d := by
  have hscaled : Number.scaled {} d = d.multiply Decimal.one >>= fun number => pure number := rfl
  rw [hscaled, Decimal.multiply_one]
  cases Decimal.finish d <;> rfl

/-- A number in the default form is rounded to the working precision, and its magnitude has no limits on its
digits. -/
theorem plainNumber_eq (g : Graph) (hd : value.decimal? = some d)
    (hl : context.localeFor .number = some locale) : plainNumber context g value =
      (Outcome.arithmetic (Decimal.finish d) >>= fun r =>
        Number.rendering context {} locale ⟨r.magnitude, none, none⟩ >>= fun text =>
          text.elim (pure (g.plainText value))
            (Number.decorate context {} r ⟨r.magnitude, none, none⟩)) := by
  have hlocale : Number.localeOf context {} = some locale := hl
  rw [plainNumber, numberWith, hd, Number.render_of_locale rfl hlocale, Number.renderAt, scaled_default]
  refine bind_congr fun r => ?_
  rfl

/-- What a backend that answers is asked, and what is made of its answers. -/
theorem rendering_decorate (plain : String) (r : Decimal) {text digits : String} {symbols : Number.Symbols}
    (hl : context.localeFor .number = some locale)
    (htext : context.backend.answer (.formatNumber r.magnitude {}) locale = .ok text)
    (hsymbols : context.backend.answer .numberSymbols locale = .ok symbols)
    (hdigits : context.backend.answer .numberingDigits locale = .ok digits) :
    (Number.rendering context {} locale ⟨r.magnitude, none, none⟩ >>= fun text =>
      text.elim (pure plain) (Number.decorate context {} r ⟨r.magnitude, none, none⟩)) =
    ⟨[⟨.formatNumber r.magnitude {}, locale⟩, ⟨.numberSymbols, locale⟩, ⟨.numberingDigits, locale⟩],
      .ok (Context.replaceDigits digits ((if r.isNegative then symbols.minus else "") ++ text))⟩ := by
  have hrendering : Number.rendering context {} locale ⟨r.magnitude, none, none⟩ =
      ⟨[⟨.formatNumber r.magnitude {}, locale⟩], .ok (some text)⟩ := by
    have hask : Number.renderMagnitude context {} locale ⟨r.magnitude, none, none⟩ =
        context.ask (.formatNumber r.magnitude {}) locale := rfl
    rw [Number.rendering, hask, ask_of_answer htext]
    rfl
  have hnumberSymbols : context.numberSymbols = ⟨[⟨.numberSymbols, locale⟩], .ok symbols⟩ := by
    simp only [Context.numberSymbols, hl, ask_of_answer hsymbols]
  have htransliterate (s : String) : context.transliterate s =
      ⟨[⟨.numberingDigits, locale⟩], .ok (Context.replaceDigits digits s)⟩ := by
    simp only [Context.transliterate, hl, ask_of_answer hdigits]
    rfl
  have hsign : Number.withSign .auto symbols r.isNegative r.magnitude.isZero (text ++ "") =
      (if r.isNegative then symbols.minus else "") ++ text := by
    cases hn : r.isNegative <;> simp [Number.withSign]
  have hdecorate : Number.decorate context {} r ⟨r.magnitude, none, none⟩ text =
      context.numberSymbols >>= fun symbols => context.transliterate
        (Number.withSign .auto symbols r.isNegative r.magnitude.isZero (text ++ "")) := rfl
  rw [hnumberSymbols] at hdecorate
  rw [hrendering, ← hsign]
  simp only [Outcome.bind_eq, Outcome.bind, Option.elim_some, hdecorate, htransliterate, List.cons_append,
    List.nil_append]

theorem plainNumber_fails_iff (g : Graph) (hd : value.decimal? = some d)
    (hl : context.localeFor .number = some locale) (ha : context.backend.Answers locale) :
    (plainNumber context g value).Fails ↔ Decimal.overflowBound Decimal.defaultPrecision ≤ |d.value| := by
  rw [plainNumber_eq g hd hl, Outcome.fails_bind_iff, Outcome.fails_arithmetic_iff, Decimal.abs_value]
  simp only [Decimal.finish_eq_error_iff Decimal.defaultPrecision_pos, exists_eq_left, or_iff_left_iff_imp]
  rintro ⟨r, -, hr⟩
  obtain ⟨text, htext⟩ := ha (.formatNumber r.magnitude {})
  obtain ⟨symbols, hsymbols⟩ := ha .numberSymbols
  obtain ⟨digits, hdigits⟩ := ha .numberingDigits
  rw [rendering_decorate _ r hl htext hsymbols hdigits] at hr
  obtain ⟨e, he⟩ := hr
  cases he

/-- A number in the default form is asked for and written as the locale has it, up to the precision. There is
no text just if the number is too large. Else one magnitude is rendered, without limits on its digits, and a
minus sign is put before it just if the number is negative and does not come to zero; the digits are those of the
locale. The magnitude has the value and the places of the number just if nothing of it is lost: if it has no
more digits than the precision, or is a whole number with zeros for all further digits, and is in the range of
exponents; with no more digits it is the number itself. -/
theorem plainNumber_renders (g : Graph) (hd : value.Reads d) (hl : context.localeFor .number = some locale)
    (ha : context.backend.Answers locale) :
    ((plainNumber context g value).Fails ↔ Decimal.overflowBound Decimal.defaultPrecision ≤ |d.value|) ∧
    (∀ r, Decimal.finish d = .ok r → ∃ text symbols digits,
      context.backend.answer (.formatNumber r.magnitude {}) locale = .ok text ∧
      context.backend.answer .numberSymbols locale = .ok symbols ∧
      context.backend.answer .numberingDigits locale = .ok digits ∧
      plainNumber context g value =
        ⟨[⟨.formatNumber r.magnitude {}, locale⟩, ⟨.numberSymbols, locale⟩, ⟨.numberingDigits, locale⟩],
          .ok (Context.replaceDigits digits ((if r.isNegative then symbols.minus else "") ++ text))⟩ ∧
      (r.isNegative = true ↔ d.value < 0 ∧ r.isZero = false)) ∧
    ((∃ r, Decimal.finish d = .ok r ∧ r.magnitude.value = |d.value| ∧ r.places = d.places) ↔ d.Kept) ∧
    (d.Fits → Decimal.finish d = .ok d) := by
  refine ⟨plainNumber_fails_iff g hd.decimal? hl ha, fun r hr => ?_, Decimal.magnitude_kept_iff,
    fun h => h.finish_eq Decimal.defaultPrecision_pos⟩
  obtain ⟨text, htext⟩ := ha (.formatNumber r.magnitude {})
  obtain ⟨symbols, hsymbols⟩ := ha .numberSymbols
  obtain ⟨digits, hdigits⟩ := ha .numberingDigits
  refine ⟨text, symbols, digits, htext, hsymbols, hdigits, ?_, Decimal.isNegative_of_finish hr⟩
  rw [plainNumber_eq g hd.decimal? hl, hr, ← rendering_decorate (g.plainText value) r hl htext hsymbols hdigits]
  rfl

theorem answers_englishTable : englishTable.backend.Answers "en" := by
  intro request
  cases request <;> exact ⟨_, rfl⟩

/-- A negative number of 28 digits with places. -/
theorem plainNumber_renders_negative : ∃ (value : Value) (d : Decimal),
    value = .decimal (.finite d) ∧ d = ⟨true, 1234567890123456789012345670, -2⟩ ∧ value.Reads d ∧
    englishContext.localeFor .number = some "en" ∧ englishContext.backend.Answers "en" ∧ d.Kept ∧
    ∃ text symbols digits,
      englishContext.backend.answer (.formatNumber d.magnitude {}) "en" = .ok text ∧
      englishContext.backend.answer .numberSymbols "en" = .ok symbols ∧
      englishContext.backend.answer .numberingDigits "en" = .ok digits ∧
      (plainNumber englishContext {} value).result =
        .ok (Context.replaceDigits digits (symbols.minus ++ text)) := by
  have hreads : Value.Reads (.decimal (.finite ⟨true, 1234567890123456789012345670, -2⟩))
      ⟨true, 1234567890123456789012345670, -2⟩ := .decimal (by decide)
  have hlocale : englishContext.localeFor .number = some "en" := by decide +kernel
  obtain ⟨-, hrenders, -, hfits⟩ := plainNumber_renders {} hreads hlocale answers_englishTable
  obtain ⟨text, symbols, digits, htext, hsymbols, hdigits, hplain, -⟩ := hrenders _ (hfits (by decide))
  exact ⟨_, _, rfl, rfl, hreads, hlocale, answers_englishTable, by decide, text, symbols, digits, htext,
    hsymbols, hdigits, congrArg Outcome.result hplain⟩

/-- One digit more than the precision: the last one is not asked for. -/
theorem plainNumber_rounds : ∃ (value : Value) (d : Decimal),
    value = .int 12345678901234567890123456789 ∧ d = ⟨false, 12345678901234567890123456789, 0⟩ ∧
    value.Reads d ∧ englishContext.localeFor .number = some "en" ∧ englishContext.backend.Answers "en" ∧
    (plainNumber englishContext {} value).calls.head? =
      some ⟨.formatNumber ⟨false, 1234567890123456789012345679, 1⟩ {}, "en"⟩ ∧
    (plainNumber englishContext {} value).result =
      .ok "1.234567890123456789012345679E+28[decimal;1;~;~;g;~;symbol;~]@en" :=
  ⟨.int 12345678901234567890123456789, _, rfl, rfl,
    Value.reads_int_of_lt (k := 29) (by decide) (by decide), by decide +kernel, answers_englishTable,
    by decide +kernel, by decide +kernel⟩

end Format
end MessageFormat
