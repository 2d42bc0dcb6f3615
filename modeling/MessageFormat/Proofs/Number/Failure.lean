import MessageFormat.Format.Number
import MessageFormat.Locale.Table
import MessageFormat.Proofs.Locale.Served
import MessageFormat.Proofs.Number.Limits
import MessageFormat.Proofs.Number.Stages
import MessageFormat.Proofs.Plural.Operands

/-!
Where writing a number fails although the locale data fails in the expected ways only. The steps before and
after the rendering itself have nothing to fall back on.
-/

set_option autoImplicit false

namespace MessageFormat

open Outcome

namespace Locale

/-- Numbers, with or without a unit. -/
def Request.RendersNumber : Request → Prop
  | .formatNumber .. | .formatUnit .. => True
  | _ => False

/-- Only the rendering of numbers fails, by faults after which the plain text is shown. -/
def Backend.Degrades (backend : Backend) : Prop :=
  ∀ request locale f, backend.answer request locale = .error f →
    request.RendersNumber ∧ f.kind ∈ Number.degradable

namespace Context

variable {context : Context}

/-- A request fails with the fault that it is answered with. -/
theorem exists_fault {request : Request} {locale : String} {e : Error}
    (he : (context.ask request locale).result = .error e) :
    ∃ f, context.backend.answer request locale = .error f ∧ e = .fault f := by
  cases hanswer : context.backend.answer request locale with
  | ok answer =>
    rw [ask, Outcome.ask, hanswer] at he
    cases he
  | error f =>
    rw [ask, Outcome.ask, hanswer] at he
    exact ⟨f, rfl, (Except.error.inj he).symm⟩

theorem failsBy_ask (h : context.backend.Degrades) (request : Request) (locale : String) :
    (context.ask request locale).FailsBy fun e =>
      request.RendersNumber ∧ ∃ f, e = .fault f ∧ f.kind ∈ Number.degradable := by
  intro e he
  obtain ⟨f, hf, rfl⟩ := exists_fault he
  obtain ⟨hrenders, hkind⟩ := h request locale f hf
  exact ⟨hrenders, f, rfl, hkind⟩

theorem not_fails_ask (h : context.backend.Degrades) {request : Request} {locale : String}
    (hr : ¬ request.RendersNumber) : ¬ (context.ask request locale).Fails :=
  fun ⟨e, he⟩ => hr (failsBy_ask h request locale e he).1

theorem not_fails_numberSymbols (h : context.backend.Degrades) : ¬ context.numberSymbols.Fails := by
  unfold numberSymbols
  split
  · exact not_fails_pure _
  · exact not_fails_ask h id

theorem not_fails_transliterate (h : context.backend.Degrades) (text : String) :
    ¬ (context.transliterate text).Fails := by
  unfold transliterate
  split
  · exact not_fails_pure _
  · rw [fails_bind_iff]
    rintro (hfails | ⟨digits, -, hfails⟩)
    · exact not_fails_ask h id hfails
    · exact not_fails_pure _ hfails

/-- A number is out of every category just if it has no operands. -/
theorem fails_pluralCategory_iff (h : context.backend.Degrades) (value : Value) (ordinal : Bool) :
    (context.pluralCategory value ordinal).Fails ↔
      (∃ locale, context.localeFor (if ordinal then .ordinal else .plural) = some locale) ∧
        ∃ f, PluralOperands.ofValue value = .error f := by
  unfold pluralCategory
  split
  · rename_i hnone
    exact iff_of_false (not_fails_pure _) (by simp [hnone])
  · rename_i locale hsome
    rw [fails_bind_iff, fails_ofFault_iff]
    simp only [hsome, Option.some.injEq, exists_eq', true_and, or_iff_left_iff_imp]
    rintro ⟨operands, -, hfails⟩
    rw [fails_bind_iff] at hfails
    rcases hfails with hfails | ⟨name, -, hfails⟩
    · exact (not_fails_ask h id hfails).elim
    · exact (not_fails_pure _ hfails).elim

end Context
end Locale

namespace Number

variable {context : Locale.Context} {spec : Spec}

/-- The error is a fault of rendering after which the plain text is shown. -/
def Degradable (e : Error) : Prop := ∃ f, e = .fault f ∧ f.kind ∈ degradable

theorem degradable_ask (h : context.backend.Degrades) (request : Locale.Request) (locale : String) :
    (context.ask request locale).FailsBy Degradable :=
  (Locale.Context.failsBy_ask h request locale).mono fun _ he => he.2

/-- Rendering a magnitude fails as its requests do, or as finding its mantissa does. -/
theorem failsBy_renderMagnitude {P : Error → Prop} {locale : String} {l : Limited}
    (hask : ∀ request locale, (context.ask request locale).FailsBy P)
    (hmantissa : spec.form.isScientific = true →
      (arithmetic (l.magnitude.scaleb (-exponentOf spec l.magnitude))).FailsBy P)
    (hsymbols : context.numberSymbols.FailsBy P) :
    (renderMagnitude context spec locale l).FailsBy P := by
  unfold renderMagnitude
  split
  · rename_i hform
    exact (hmantissa hform).bind fun mantissa => (hask _ _).bind fun text =>
      hsymbols.bind fun symbols => failsBy_pure _
  · split
    · refine (hask _ _).bind fun text => ?_
      split
      · exact failsBy_pure _
      · exact (hask _ _).bind fun number => failsBy_pure _
    · exact hask _ _

theorem degradable_renderMagnitude (h : context.backend.Degrades) (locale : String) (l : Limited) :
    (renderMagnitude context spec locale l).FailsBy Degradable := by
  refine failsBy_renderMagnitude (degradable_ask h) (fun _ e he => ?_) fun e he =>
    (Locale.Context.not_fails_numberSymbols h ⟨e, he⟩).elim
  cases hs : l.magnitude.scaleb (-exponentOf spec l.magnitude) with
  | ok mantissa =>
    rw [hs] at he
    cases he
  | error s =>
    obtain rfl := scaleb_exponentOf spec hs
    rw [hs] at he
    exact ⟨_, (Except.error.inj he).symm, by decide⟩

theorem fails_ordinalSuffix_iff (h : context.backend.Degrades) (magnitude : Decimal) :
    (ordinalSuffix context magnitude).Fails ↔
      (∃ locale, context.localeFor .ordinal = some locale) ∧
        ∃ f, PluralOperands.ofValue (.decimal (.finite magnitude)) = .error f := by
  unfold ordinalSuffix
  split
  · rename_i hnone
    exact iff_of_false (not_fails_pure _) (by simp [hnone])
  · rename_i locale hsome
    rw [fails_bind_iff, Locale.Context.fails_pluralCategory_iff h]
    simp only [if_true, hsome, or_iff_left_iff_imp]
    rintro ⟨category, -, hfails⟩
    rw [fails_bind_iff] at hfails
    rcases hfails with hfails | ⟨suffix, -, hfails⟩
    · exact (Locale.Context.not_fails_ask h id hfails).elim
    · exact (not_fails_pure _ hfails).elim

/-- What cannot be written under a spec: what overflows when it is scaled; any number, under a greatest width
that has no power of ten; what has too many digits above those of the greatest width; and what needs an
ordinal suffix but has no plural operands. -/
inductive Breaks (context : Locale.Context) (spec : Spec) (locale : String) (number : Decimal) : Prop where
  | scale (h : Decimal.overflowBound Decimal.defaultPrecision ≤
      number.size * spec.scale.size * spec.factor)
  | width (most : Nat) (hm : spec.maxInteger = some most) (h : Decimal.maxExponent < most)
  | integer (most : Nat) (scaled : Decimal) (hm : spec.maxInteger = some most)
      (hs : Number.scaled spec number = .ok scaled)
      (h : 10 ^ (Decimal.defaultPrecision + most) ≤ scaled.size)
  | ordinal (scaled magnitude : Decimal) (l : Limited) (text : String)
      (ho : spec.ordinal = true) (hn : spec.form.isScientific = false)
      (hl : ∃ locale, context.localeFor .ordinal = some locale)
      (hs : Number.scaled spec number = .ok scaled)
      (ht : truncated spec scaled.magnitude = .ok magnitude) (hd : limited spec magnitude = .ok l)
      (hr : (renderMagnitude context spec locale l).result = .ok text)
      (h : ∃ f, PluralOperands.ofValue (.decimal (.finite l.magnitude)) = .error f)

/-- What follows the rendering fails just if there is a suffix to choose and no operands to choose it by. -/
theorem fails_decorate_iff (h : context.backend.Degrades) (number : Decimal) (l : Limited)
    (text : String) : (decorate context spec number l text).Fails ↔
      (spec.ordinal = true ∧ spec.form.isScientific = false) ∧
        (∃ locale, context.localeFor .ordinal = some locale) ∧
          ∃ f, PluralOperands.ofValue (.decimal (.finite l.magnitude)) = .error f := by
  have hrest (suffix : String) : ¬ (context.numberSymbols >>= fun symbols => context.transliterate
      (withSign spec.sign symbols number.isNegative l.magnitude.isZero (text ++ suffix))).Fails := by
    rw [fails_bind_iff]
    rintro (hfails | ⟨symbols, -, hfails⟩)
    · exact Locale.Context.not_fails_numberSymbols h hfails
    · exact Locale.Context.not_fails_transliterate h _ hfails
  rw [decorate, fails_bind_iff, or_iff_left (by rintro ⟨suffix, -, hfails⟩; exact hrest suffix hfails)]
  split
  · rename_i hsuffix
    rw [fails_ordinalSuffix_iff h]
    simp_all
  · rename_i hsuffix
    refine iff_of_false (not_fails_pure _) ?_
    simp_all

/-- There always is a rendering, or that there is none. -/
theorem result_rendering (h : context.backend.Degrades) (locale : String) (l : Limited) :
    (rendering context spec locale l).result =
      .ok (renderMagnitude context spec locale l).result.toOption := by
  have hsome : (some <$> renderMagnitude context spec locale l).FailsBy Degradable :=
    (degradable_renderMagnitude h locale l).bind fun text => failsBy_pure _
  rw [rendering, result_recover_pure hsome none]
  cases renderMagnitude context spec locale l with
  | mk calls result => cases result <;> rfl

theorem fails_renderAt_iff (h : context.backend.Degrades) (locale : String) (number : Decimal)
    (plain : String) : (renderAt context spec locale number plain).Fails ↔
      Breaks context spec locale number := by
  rw [renderAt, fails_bind_iff, fails_arithmetic_iff]
  simp only [result_arithmetic_eq_ok_iff, fails_bind_iff, fails_arithmetic_iff,
    truncated_eq_error_iff, result_rendering h]
  constructor
  · rintro (⟨s, hs⟩ | ⟨p, hp, ⟨most, hm, hwidth | hinteger⟩ | ⟨m, hm, hrest⟩⟩)
    · exact .scale (scaled_eq_error_iff.mp hs).2
    · exact .width most hm hwidth
    · exact .integer most p hm hp hinteger
    · obtain ⟨-, hrange, -⟩ := fits_of_truncated (fits_of_scaled hp).magnitude hm
      obtain ⟨l, hl, -⟩ := limited_spec spec hrange
      rcases hrest with ⟨s, hs⟩ | ⟨l', hl', hfails | ⟨text, htext, hfails⟩⟩
      · rw [hl] at hs
        cases hs
      · exact (not_fails_iff.mpr ⟨_, result_rendering h locale l'⟩ hfails).elim
      · cases hr : (renderMagnitude context spec locale l').result with
        | error e =>
          rw [hr] at htext
          obtain rfl : none = text := Except.ok.inj htext
          exact (not_fails_pure _ hfails).elim
        | ok rendered =>
          rw [hr] at htext
          obtain rfl : some rendered = text := Except.ok.inj htext
          obtain ⟨⟨ho, hn⟩, hordinal, hoperands⟩ := (fails_decorate_iff h p l' rendered).mp hfails
          exact .ordinal p m l' rendered ho hn hordinal hp hm hl' hr hoperands
  · intro hbreaks
    cases hs : scaled spec number with
    | error s => exact .inl ⟨s, rfl⟩
    | ok p =>
      refine .inr ⟨p, rfl, ?_⟩
      cases hbreaks with
      | scale hbound =>
        rw [scaled_eq_error_iff.mpr ⟨rfl, hbound⟩] at hs
        cases hs
      | width most hm hwidth => exact .inl ⟨most, hm, .inl hwidth⟩
      | integer most p' hm hp' hinteger =>
        obtain rfl : p' = p := Except.ok.inj (hp'.symm.trans hs)
        exact .inl ⟨most, hm, .inr hinteger⟩
      | ordinal p' m l text ho hn hordinal hp' hm hl hr hoperands =>
        obtain rfl : p' = p := Except.ok.inj (hp'.symm.trans hs)
        refine .inr ⟨m, hm, .inr ⟨l, hl, .inr ⟨some text, ?_, ?_⟩⟩⟩
        · rw [hr]
          rfl
        · exact (fails_decorate_iff h p' l text).mpr ⟨⟨ho, hn⟩, hordinal, hoperands⟩

theorem fails_render_iff (h : context.backend.Degrades) (number : Option Decimal) (plain : String) :
    (render context spec number plain).Fails ↔ ∃ n locale, number = some n ∧
      spec.isLiteralFallback = false ∧ localeOf context spec = some locale ∧
      Breaks context spec locale n := by
  cases number with
  | none => exact iff_of_false (not_fails_pure _) (by simp)
  | some number =>
    cases hl : spec.isLiteralFallback with
    | true =>
      rw [render_of_literal hl]
      exact iff_of_false (not_fails_pure _) (by simp)
    | false =>
      cases hlocale : localeOf context spec with
      | none =>
        rw [render_of_no_locale hlocale]
        exact iff_of_false (not_fails_pure _) (by simp)
      | some locale =>
        rw [render_of_locale hl hlocale, fails_renderAt_iff h]
        simp

end Number

namespace Format

open Number (Spec)

/-- With locale data of which only the rendering of numbers fails, and by such faults as the plain text stands
in for. Under a spec there is no text of a value just if the value is a number, some token of the spec was
understood, there is a locale, and the number breaks the spec. A magnitude within the exponent range has no
plural operands just if its fraction is longer than any integer that is read. -/
theorem numberWith_fails_iff {context : Locale.Context} (h : context.backend.Degrades) (g : Graph)
    (spec : Spec) (value : Value) :
    ((∃ e, (numberWith context g spec value).result = .error e) ↔
      ∃ number locale, value.decimal? = some number ∧ spec.isLiteralFallback = false ∧
        Number.localeOf context spec = some locale ∧ Number.Breaks context spec locale number) ∧
    ∀ magnitude : Decimal, magnitude.holdable = true → magnitude.adjusted ≤ Decimal.maxExponent →
      ((∃ f, PluralOperands.ofValue (.decimal (.finite magnitude)) = .error f) ↔
        (Text.Integer.mostDigits : ℤ) < -magnitude.exponent) :=
  ⟨Number.fails_render_iff h _ _, fun _ hm ha => PluralOperands.ofValue_eq_error_iff hm ha⟩

/-- A backend that has data of all kinds for one locale and marks what it is asked for. -/
def englishTable : Locale.Table := { kinds := [("en", DataKind.all)] }

theorem degrades_englishTable : englishTable.backend.Degrades := by
  intro request locale f h
  cases request <;> cases h

def englishContext : Locale.Context := .build englishTable.backend "en" "en"

/-- The greatest power of ten as a percentage. -/
theorem numberWith_fails_iff_percent : englishContext.backend.Degrades ∧
    ∃ e, (numberWith englishContext {} { percent := true } (.text "1e999999")).result = .error e := by
  refine ⟨degrades_englishTable, ?_⟩
  rw [(numberWith_fails_iff degrades_englishTable {} { percent := true } (.text "1e999999")).1]
  refine ⟨⟨false, 1, Decimal.maxExponent⟩, "en", by decide +kernel, by decide, by decide +kernel,
    .scale ?_⟩
  have hsize : Decimal.size ⟨false, 1, Decimal.maxExponent⟩ = 10 ^ Decimal.maxExponent := by
    rw [Decimal.size, Nat.cast_one, one_mul]
  have hone : ({ percent := true } : Spec).scale.size = 1 := by
    simp [Decimal.size, Decimal.one, Decimal.ofNat]
  have hfactor : ({ percent := true } : Spec).factor = 100 := by decide
  have hlt := Decimal.overflowBound_lt Decimal.defaultPrecision
  have hpos : (0 : ℚ) < 10 ^ Decimal.maxExponent := by positivity
  rw [zpow_add_one₀ (by norm_num)] at hlt
  rw [hsize, hone, hfactor]
  push_cast
  linarith

/-- One digit more than can be cut off: the magnitude is not shown, and neither is the plain text. -/
theorem numberWith_breaks_width : englishContext.backend.Degrades ∧
    (numberWith englishContext {} (Spec.ofSkeleton "::integer-width/##0".toList)
      (.text "1e31")).result =
        .error (.fault ⟨.invalidOperation, "[<class 'decimal.DivisionImpossible'>]"⟩) :=
  ⟨degrades_englishTable, by decide +kernel⟩

end Format
end MessageFormat
