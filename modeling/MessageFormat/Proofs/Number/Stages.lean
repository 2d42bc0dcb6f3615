import MessageFormat.Number.Rendering
import MessageFormat.Proofs.Outcome

/-!
The stages of writing a number: the locale is found, the value is brought to a magnitude, the magnitude is
rendered, and the rest is put around it.
-/

set_option autoImplicit false

namespace MessageFormat.Number

open MessageFormat.Locale (Context)

/-- The locale that numbers of a spec are rendered for. -/
def localeOf (context : Context) (spec : Spec) : Option String :=
  (if spec.currency.isSome then context.localeFor .currency else none) <|> context.localeFor .number

/-- A rendered magnitude with suffix, sign and digits. -/
def decorate (context : Context) (spec : Spec) (number : Decimal) (l : Limited) (text : String) :
    Outcome String :=
  (if spec.ordinal && !spec.form.isScientific then ordinalSuffix context l.magnitude else pure "") >>=
    fun suffix => context.numberSymbols >>= fun symbols =>
      context.transliterate
        (withSign spec.sign symbols number.isNegative l.magnitude.isZero (text ++ suffix))

/-- The rendered magnitude, or nothing where rendering fails in an expected way. -/
def rendering (context : Context) (spec : Spec) (locale : String) (l : Limited) :
    Outcome (Option String) :=
  Outcome.recover degradable (some <$> renderMagnitude context spec locale l) (pure none)

/-- A number at its locale. -/
def renderAt (context : Context) (spec : Spec) (locale : String) (number : Decimal) (plain : String) :
    Outcome String :=
  Outcome.arithmetic (scaled spec number) >>= fun number =>
    Outcome.arithmetic (truncated spec number.magnitude) >>= fun magnitude =>
      Outcome.arithmetic (limited spec magnitude) >>= fun l =>
        rendering context spec locale l >>= fun text =>
          text.elim (pure plain) (decorate context spec number l)

variable {context : Context} {spec : Spec} {number : Decimal} {plain : String}

/-- What is rendered is decorated. -/
theorem result_renderAt {locale text : String} {s cut : Decimal} {l : Limited}
    (hs : scaled spec number = .ok s) (hcut : truncated spec s.magnitude = .ok cut)
    (hl : limited spec cut = .ok l) (htext : (rendering context spec locale l).result = .ok (some text)) :
    (renderAt context spec locale number plain).result = (decorate context spec s l text).result := by
  rw [renderAt, Outcome.result_bind (Outcome.result_arithmetic_eq_ok_iff.mpr hs),
    Outcome.result_bind (Outcome.result_arithmetic_eq_ok_iff.mpr hcut),
    Outcome.result_bind (Outcome.result_arithmetic_eq_ok_iff.mpr hl), Outcome.result_bind htext,
    Option.elim_some]

theorem render_none : render context spec none plain = pure plain := rfl

theorem render_of_literal (h : spec.isLiteralFallback = true) :
    render context spec (some number) plain = pure plain := by
  rw [render]
  exact if_pos h

theorem render_of_no_locale (h : localeOf context spec = none) :
    render context spec (some number) plain = pure plain := by
  unfold localeOf at h
  unfold render
  simp only [h, ite_self]

theorem render_of_locale {locale : String} (hl : spec.isLiteralFallback = false)
    (h : localeOf context spec = some locale) :
    render context spec (some number) plain = renderAt context spec locale number plain := by
  unfold localeOf at h
  unfold render renderAt
  simp only [hl, h, Bool.false_eq_true, if_false]
  refine bind_congr fun number => bind_congr fun magnitude => bind_congr fun l => ?_
  refine bind_congr fun text => ?_
  cases text with
  | none => rfl
  | some text =>
    simp only [decorate, Option.elim]
    split <;> rfl

end MessageFormat.Number
