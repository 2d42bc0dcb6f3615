import MessageFormat.Proofs.Decimal.Sign
import MessageFormat.Proofs.Number.Plain

/-!
The sign of a number has no part in the rendering of its magnitude. A number and its negation are asked for and
rendered alike, and only then the marks of the sign policy are put around the text.
-/

set_option autoImplicit false

namespace MessageFormat.Number

open Decimal
open MessageFormat.Locale (Context)

/-! Sign policies. -/

/-- What a policy makes of a text, by the value and by what is shown of it. -/
inductive Decorates (symbols : Symbols) (value shown : ℚ) (text : String) :
    SignDisplay → String → Prop where
  | never : Decorates symbols value shown text .never text
  | zero {policy : SignDisplay} (hp : policy ∈ [.exceptZero, .accountingExceptZero]) (hs : shown = 0) :
      Decorates symbols value shown text policy text
  | minus {policy : SignDisplay} (hp : policy ∈ [.auto, .always, .exceptZero])
      (hs : policy = .exceptZero → shown ≠ 0) (hv : value < 0) :
      Decorates symbols value shown text policy (symbols.minus ++ text)
  | enclosed {policy : SignDisplay} (hp : policy ∈ [.accounting, .accountingAlways, .accountingExceptZero])
      (hs : policy = .accountingExceptZero → shown ≠ 0) (hv : value < 0) :
      Decorates symbols value shown text policy ("(" ++ text ++ ")")
  | plus {policy : SignDisplay}
      (hp : policy ∈ [.always, .exceptZero, .accountingAlways, .accountingExceptZero])
      (hs : policy ∈ [.exceptZero, .accountingExceptZero] → shown ≠ 0) (hv : 0 ≤ value) :
      Decorates symbols value shown text policy (symbols.plus ++ text)
  | bare {policy : SignDisplay} (hp : policy ∈ [.auto, .accounting]) (hv : 0 ≤ value) :
      Decorates symbols value shown text policy text

theorem decorates_withSign {symbols : Symbols} {value shown : ℚ} {negative zero : Bool}
    (hn : negative = true ↔ value < 0) (hz : zero = true ↔ shown = 0) (policy : SignDisplay)
    (text : String) :
    Decorates symbols value shown text policy (withSign policy symbols negative zero text) := by
  have hvalue : negative = false → 0 ≤ value := fun h => not_lt.mp (mt hn.mpr (by simp [h]))
  have hshown : zero = false → shown ≠ 0 := fun h => mt hz.mpr (by simp [h])
  cases policy with
  | never => exact .never
  | auto =>
    cases negative with
    | true => exact .minus (by decide) (fun h => by cases h) (hn.mp rfl)
    | false => exact .bare (by decide) (hvalue rfl)
  | always =>
    cases negative with
    | true => exact .minus (by decide) (fun h => by cases h) (hn.mp rfl)
    | false => exact .plus (by decide) (fun h => absurd h (by decide)) (hvalue rfl)
  | accounting =>
    cases negative with
    | true => exact .enclosed (by decide) (fun h => by cases h) (hn.mp rfl)
    | false => exact .bare (by decide) (hvalue rfl)
  | accountingAlways =>
    cases negative with
    | true => exact .enclosed (by decide) (fun h => by cases h) (hn.mp rfl)
    | false => exact .plus (by decide) (fun h => absurd h (by decide)) (hvalue rfl)
  | exceptZero =>
    cases zero with
    | true => exact .zero (by decide) (hz.mp rfl)
    | false =>
      cases negative with
      | true => exact .minus (by decide) (fun _ => hshown rfl) (hn.mp rfl)
      | false => exact .plus (by decide) (fun _ => hshown rfl) (hvalue rfl)
  | accountingExceptZero =>
    cases zero with
    | true => exact .zero (by decide) (hz.mp rfl)
    | false =>
      cases negative with
      | true => exact .enclosed (by decide) (fun _ => hshown rfl) (hn.mp rfl)
      | false => exact .plus (by decide) (fun _ => hshown rfl) (hvalue rfl)

/-! What is rendered before the sign is known. -/

/-- A magnitude as it is shown: its digits, their text, what follows them, and the symbols for signs. -/
structure Unsigned where
  limits : Limited
  rendered : String
  suffix : String
  symbols : Symbols

/-- A scaled magnitude as it is shown, unless its rendering fails in an expected way. -/
def unsigned (context : Context) (spec : Spec) (locale : String) (magnitude : Decimal) :
    Outcome (Option Unsigned) :=
  Outcome.arithmetic (truncated spec magnitude) >>= fun magnitude =>
    Outcome.arithmetic (limited spec magnitude) >>= fun l =>
      rendering context spec locale l >>= fun text =>
        text.elim (pure none) fun text =>
          (if spec.ordinal && !spec.form.isScientific then ordinalSuffix context l.magnitude
            else pure "") >>= fun suffix =>
            context.numberSymbols >>= fun symbols => pure (some ⟨l, text, suffix, symbols⟩)

/-- What is shown with its sign. -/
def Unsigned.signed (u : Unsigned) (policy : SignDisplay) (negative : Bool) : String :=
  withSign policy u.symbols negative u.limits.magnitude.isZero (u.rendered ++ u.suffix)

variable {context : Context} {spec : Spec} {locale plain : String} {number number' magnitude : Decimal}

theorem renderAt_eq_unsigned : renderAt context spec locale number plain =
    Outcome.arithmetic (scaled spec number) >>= fun number =>
      unsigned context spec locale number.magnitude >>= fun u =>
        u.elim (pure plain) fun u => context.transliterate (u.signed spec.sign number.isNegative) := by
  unfold renderAt unsigned
  refine bind_congr fun number => ?_
  rw [bind_assoc]
  refine bind_congr fun magnitude => ?_
  rw [bind_assoc]
  refine bind_congr fun l => ?_
  rw [bind_assoc]
  refine bind_congr fun text => ?_
  cases text with
  | none => rfl
  | some text =>
    unfold decorate
    simp only [Option.elim_some, bind_assoc, pure_bind]
    rfl

/-- What is shown of a magnitude goes back to the digits that are kept of it. -/
theorem of_unsigned {u : Unsigned} (h : (unsigned context spec locale magnitude).result = .ok (some u)) :
    ∃ cut, truncated spec magnitude = .ok cut ∧ limited spec cut = .ok u.limits ∧
      (rendering context spec locale u.limits).result = .ok (some u.rendered) ∧
      (spec.ordinal = false → u.suffix = "") ∧ context.numberSymbols.result = .ok u.symbols := by
  obtain ⟨cut, hcut, h⟩ := Outcome.bind_result_eq_ok_iff.mp h
  obtain ⟨l, hl, h⟩ := Outcome.bind_result_eq_ok_iff.mp h
  obtain ⟨text, htext, h⟩ := Outcome.bind_result_eq_ok_iff.mp h
  cases text with
  | none => cases h
  | some text =>
    obtain ⟨suffix, hsuffix, h⟩ := Outcome.bind_result_eq_ok_iff.mp h
    obtain ⟨symbols, hsymbols, h⟩ := Outcome.bind_result_eq_ok_iff.mp h
    obtain rfl : ⟨l, text, suffix, symbols⟩ = u := Option.some.inj (Except.ok.inj h)
    refine ⟨cut, Outcome.result_arithmetic_eq_ok_iff.mp hcut, Outcome.result_arithmetic_eq_ok_iff.mp hl,
      htext, fun ho => ?_, hsymbols⟩
    rw [ho] at hsuffix
    exact (Except.ok.inj hsuffix).symm

theorem map_magnitude_multiply (h : number.magnitude = number'.magnitude) (factor : Decimal) :
    (number.multiply factor).map Decimal.magnitude = (number'.multiply factor).map Decimal.magnitude := by
  rw [← multiply_magnitude, ← multiply_magnitude, h]

theorem map_magnitude_bind {r r' : Decimal.Result} {f : Decimal → Decimal.Result}
    (h : r.map Decimal.magnitude = r'.map Decimal.magnitude)
    (hf : ∀ d d', d.magnitude = d'.magnitude →
      (f d).map Decimal.magnitude = (f d').map Decimal.magnitude) :
    (r >>= f).map Decimal.magnitude = (r' >>= f).map Decimal.magnitude := by
  cases r with
  | error signal =>
    cases r' with
    | error signal' =>
      obtain rfl : signal = signal' := Except.error.inj h
      rfl
    | ok d' => cases h
  | ok d =>
    cases r' with
    | error signal' => cases h
    | ok d' => exact hf d d' (Except.ok.inj h)

/-- Numbers of one magnitude are scaled to one magnitude, or fail alike. -/
theorem map_magnitude_scaled (spec : Spec) (h : number.magnitude = number'.magnitude) :
    (scaled spec number).map Decimal.magnitude = (scaled spec number').map Decimal.magnitude := by
  unfold scaled
  refine map_magnitude_bind (map_magnitude_multiply h spec.scale) fun d d' hd => ?_
  split
  · exact map_magnitude_multiply hd _
  · split
    · exact map_magnitude_multiply hd _
    · exact congrArg Except.ok hd

theorem exists_scaled {s : Decimal} (h : number'.magnitude = number.magnitude)
    (hs : scaled spec number = .ok s) :
    ∃ s', scaled spec number' = .ok s' ∧ s'.magnitude = s.magnitude := by
  have hmap := map_magnitude_scaled spec h
  cases hs' : scaled spec number' with
  | error signal =>
    rw [hs, hs'] at hmap
    cases hmap
  | ok s' =>
    rw [hs, hs'] at hmap
    exact ⟨s', rfl, Except.ok.inj hmap⟩

theorem scaled_eq_error {signal : Decimal.Signal} (h : number'.magnitude = number.magnitude)
    (hs : scaled spec number = .error signal) : scaled spec number' = .error signal := by
  have hmap := map_magnitude_scaled spec h
  cases hs' : scaled spec number' with
  | error signal' =>
    rw [hs, hs'] at hmap
    exact congrArg Except.error (Except.error.inj hmap)
  | ok s' =>
    rw [hs, hs'] at hmap
    cases hmap

theorem rendered_of_rendering (h : context.backend.Degrades) {l : Limited} {text : String}
    (hr : (rendering context spec locale l).result = .ok (some text)) :
    (renderMagnitude context spec locale l).result = .ok text := by
  rw [result_rendering h] at hr
  cases hm : (renderMagnitude context spec locale l).result with
  | error e =>
    rw [hm] at hr
    cases hr
  | ok rendered =>
    rw [hm] at hr
    exact congrArg Except.ok (Option.some.inj (Except.ok.inj hr))

/-! Locale data that answers every request. -/

theorem limited_of_scientific (h : spec.form.isScientific = true) (magnitude : Decimal) :
    limited spec magnitude = .ok ⟨magnitude, spec.minFraction, spec.maxFraction⟩ := by
  rw [limited, limitDigits, if_pos h]

section Answering

variable (ha : ∀ locale, context.backend.Answers locale)
include ha

theorem degrades_of_answers : context.backend.Degrades := by
  intro request locale f hf
  obtain ⟨answer, hanswer⟩ := ha locale request
  rw [hanswer] at hf
  cases hf

theorem failsBy_ask_of_answers (request : Locale.Request) (locale : String) :
    (context.ask request locale).FailsBy fun _ => False := by
  obtain ⟨answer, hanswer⟩ := ha locale request
  rw [Format.ask_of_answer hanswer]
  exact Outcome.failsBy_pure answer

theorem exists_rendered (locale : String) {cut : Decimal} {l : Limited} (hcut : cut.Fits)
    (hl : limited spec cut = .ok l) : ∃ text, (renderMagnitude context spec locale l).result = .ok text := by
  have hfails : (renderMagnitude context spec locale l).FailsBy fun _ => False := by
    refine failsBy_renderMagnitude (failsBy_ask_of_answers ha) (fun hform => ?_) fun e he =>
      Locale.Context.not_fails_numberSymbols (degrades_of_answers ha) ⟨e, he⟩
    rw [limited_of_scientific hform] at hl
    obtain rfl := Except.ok.inj hl
    rw [scaleb_mantissaOf spec hcut]
    exact Outcome.failsBy_pure _
  exact Outcome.not_fails_iff.mp fun ⟨e, he⟩ => hfails e he

/-- Nothing is left to the plain text. -/
theorem unsigned_ne_none (spec : Spec) (locale : String) (h : magnitude.Fits) :
    (unsigned context spec locale magnitude).result ≠ .ok none := by
  intro hnone
  obtain ⟨cut, hcut, hnone⟩ := Outcome.bind_result_eq_ok_iff.mp hnone
  obtain ⟨l, hl, hnone⟩ := Outcome.bind_result_eq_ok_iff.mp hnone
  obtain ⟨text, htext, hnone⟩ := Outcome.bind_result_eq_ok_iff.mp hnone
  have hfits := fits_of_truncated h (Outcome.result_arithmetic_eq_ok_iff.mp hcut)
  obtain ⟨rendered, hrendered⟩ := exists_rendered ha locale hfits
    (Outcome.result_arithmetic_eq_ok_iff.mp hl)
  rw [result_rendering (degrades_of_answers ha), hrendered] at htext
  obtain rfl : some rendered = text := Except.ok.inj htext
  obtain ⟨suffix, -, hnone⟩ := Outcome.bind_result_eq_ok_iff.mp hnone
  obtain ⟨symbols, -, hnone⟩ := Outcome.bind_result_eq_ok_iff.mp hnone
  cases hnone

/-- Digits are replaced with the same requests in each text. -/
theorem exists_transliterate : ∃ (calls : List Locale.Call) (replace : String → String),
    ∀ text, context.transliterate text = ⟨calls, .ok (replace text)⟩ := by
  unfold Context.transliterate
  split
  · exact ⟨[], id, fun _ => rfl⟩
  · rename_i locale _
    obtain ⟨digits, hdigits⟩ := ha locale .numberingDigits
    rw [Format.ask_of_answer hdigits]
    exact ⟨[⟨.numberingDigits, locale⟩], Context.replaceDigits digits, fun _ => rfl⟩

/-- All numbers of one magnitude fail alike, or what is shown of the magnitude is signed for each of them. -/
theorem renderAt_magnitude {calls : List Locale.Call} {replace : String → String}
    (hreplace : ∀ text, context.transliterate text = ⟨calls, .ok (replace text)⟩) (spec : Spec)
    (locale : String) (size : Decimal) :
    (Breaks context spec locale size ∧ ∃ calls e, ∀ number plain, number.magnitude = size.magnitude →
      renderAt context spec locale number plain = ⟨calls, .error e⟩) ∨
    (¬ Breaks context spec locale size ∧ ∃ calls magnitude u,
      (unsigned context spec locale magnitude).result = .ok (some u) ∧
      ∀ number plain, number.magnitude = size.magnitude → ∃ s, scaled spec number = .ok s ∧
        s.magnitude = magnitude ∧ renderAt context spec locale number plain =
          ⟨calls, .ok (replace (u.signed spec.sign s.isNegative))⟩) := by
  have hbreaks : (renderAt context spec locale size "").Fails ↔ Breaks context spec locale size :=
    fails_renderAt_iff (degrades_of_answers ha) locale size ""
  cases hs : scaled spec size with
  | error signal =>
    have hfails (number : Decimal) (plain : String) (h : number.magnitude = size.magnitude) :
        renderAt context spec locale number plain =
          ⟨[], .error (.fault (Fault.ofSignal signal))⟩ := by
      rw [renderAt_eq_unsigned, scaled_eq_error h hs]
      rfl
    refine .inl ⟨hbreaks.mp ?_, _, _, hfails⟩
    rw [hfails size "" rfl]
    exact ⟨_, rfl⟩
  | ok s =>
    have hrender (number : Decimal) (plain : String) (h : number.magnitude = size.magnitude) :
        ∃ s', scaled spec number = .ok s' ∧ s'.magnitude = s.magnitude ∧
          renderAt context spec locale number plain =
            unsigned context spec locale s.magnitude >>= fun u =>
              u.elim (pure plain) fun u => ⟨calls, .ok (replace (u.signed spec.sign s'.isNegative))⟩ := by
      obtain ⟨s', hs', hmagnitude⟩ := exists_scaled h hs
      refine ⟨s', hs', hmagnitude, ?_⟩
      rw [renderAt_eq_unsigned, hs', ← hmagnitude]
      simp only [hreplace]
      rfl
    have hnone := unsigned_ne_none ha spec locale (fits_of_scaled hs).magnitude
    cases hu : unsigned context spec locale s.magnitude with
    | mk asked result =>
      rw [hu] at hrender hnone
      cases result with
      | error e =>
        refine .inl ⟨hbreaks.mp ?_, asked, e, fun number plain h => ?_⟩
        · obtain ⟨s', -, -, h⟩ := hrender size "" rfl
          rw [h]
          exact ⟨e, rfl⟩
        · obtain ⟨s', -, -, h⟩ := hrender number plain h
          exact h
      | ok shown =>
        cases shown with
        | none => exact absurd rfl hnone
        | some u =>
          refine .inr ⟨mt hbreaks.mpr ?_, asked ++ calls, s.magnitude, u, congrArg Outcome.result hu,
            fun number plain h => hrender number plain h⟩
          obtain ⟨s', -, -, h⟩ := hrender size "" rfl
          rw [h]
          exact Outcome.not_fails_iff.mpr ⟨_, rfl⟩

end Answering

end MessageFormat.Number

namespace MessageFormat.Format

open Number (Spec)
open MessageFormat.Locale (Context)

variable {context : Context} {spec : Spec} {locale : String}

theorem numberWith_eq_renderAt (g : Graph) {value : Value} {number : Decimal}
    (hl : spec.isLiteralFallback = false) (hlocale : Number.localeOf context spec = some locale)
    (hv : value.decimal? = some number) : numberWith context g spec value =
      Number.renderAt context spec locale number (g.plainText value) := by
  rw [numberWith, hv, Number.render_of_locale hl hlocale]

/-- With locale data that answers every request. A number that is not shown as plain text is written in two
steps. The first takes only its magnitude: all numbers of one magnitude are asked for by the same calls and have
the same text, or fail by the same error, and they fail just if they break the spec. The second puts the marks
of the sign policy around this text, by the sign of the scaled number and by whether the magnitude that is shown
is zero, and replaces the digits. So without signs a number and its negation are written alike. -/
theorem numberWith_sign_apart (ha : ∀ locale, context.backend.Answers locale) (g : Graph)
    (hl : spec.isLiteralFallback = false) (hlocale : Number.localeOf context spec = some locale)
    (size : Decimal) :
    (Number.Breaks context spec locale size → ∃ calls e, ∀ value number,
      value.decimal? = some number → number.magnitude = size.magnitude →
      numberWith context g spec value = ⟨calls, .error e⟩) ∧
    (¬ Number.Breaks context spec locale size → ∃ calls shown rendered suffix symbols,
      (Number.renderMagnitude context spec locale shown).result = .ok rendered ∧
      (spec.ordinal = false → suffix = "") ∧ context.numberSymbols.result = .ok symbols ∧
      ∀ value number, value.decimal? = some number → number.magnitude = size.magnitude →
        ∃ scaled cut out text, Number.scaled spec number = .ok scaled ∧
          Number.truncated spec scaled.magnitude = .ok cut ∧ Number.limited spec cut = .ok shown ∧
          Number.Decorates symbols scaled.value shown.magnitude.value (rendered ++ suffix) spec.sign out ∧
          (context.transliterate out).result = .ok text ∧
          numberWith context g spec value = ⟨calls, .ok text⟩) ∧
    (spec.sign = .never → ∀ value value' number number', value.decimal? = some number →
      value'.decimal? = some number' → number.magnitude = size.magnitude →
      number'.magnitude = size.magnitude →
      numberWith context g spec value = numberWith context g spec value') := by
  have hrender {value : Value} {number : Decimal} (hv : value.decimal? = some number) :=
    numberWith_eq_renderAt g hl hlocale hv
  obtain ⟨calls, replace, hreplace⟩ := Number.exists_transliterate ha
  rcases Number.renderAt_magnitude ha hreplace spec locale size with
    ⟨hbreaks, calls, e, hfails⟩ | ⟨hfits, calls, magnitude, u, hu, hshown⟩
  · refine ⟨fun _ => ⟨calls, e, fun value number hv hn => ?_⟩, fun h => absurd hbreaks h,
      fun _ value value' number number' hv hv' hn hn' => ?_⟩
    · rw [hrender hv, hfails _ _ hn]
    · rw [hrender hv, hrender hv', hfails _ _ hn, hfails _ _ hn']
  · obtain ⟨cut, hcut, hlimited, hrendering, hsuffix, hsymbols⟩ := Number.of_unsigned hu
    refine ⟨fun h => absurd h hfits, fun _ => ⟨calls, u.limits, u.rendered, u.suffix, u.symbols, ?_,
      hsuffix, hsymbols, fun value number hv hn => ?_⟩,
      fun hnever value value' number number' hv hv' hn hn' => ?_⟩
    · exact Number.rendered_of_rendering (Number.degrades_of_answers ha) hrendering
    · obtain ⟨s, hs, rfl, hnumber⟩ := hshown number (g.plainText value) hn
      refine ⟨s, cut, u.signed spec.sign s.isNegative, _, hs, hcut, hlimited,
        Number.decorates_withSign (PluralOperands.isNegative_iff s) ?_ _ _, ?_, (hrender hv).trans hnumber⟩
      · exact Decimal.isZero_iff_value_eq_zero _
      · rw [hreplace]
    · obtain ⟨s, -, -, hnumber⟩ := hshown number (g.plainText value) hn
      obtain ⟨s', -, -, hnumber'⟩ := hshown number' (g.plainText value') hn'
      rw [hrender hv, hrender hv', hnumber, hnumber', hnever]
      rfl

theorem answers_english (locale : String) : englishTable.backend.Answers locale := by
  intro request
  cases request <;> exact ⟨_, rfl⟩

/-- An eighth and its negation as percentages. -/
theorem numberWith_sign_apart_eighth : ∃ (spec : Spec) (d : Decimal) (calls : List Locale.Call),
    spec = Spec.ofSkeleton "::percent .0 sign-accounting-always".toList ∧ d = ⟨false, 125, -3⟩ ∧
    (∀ locale, englishContext.backend.Answers locale) ∧ spec.isLiteralFallback = false ∧
    Number.localeOf englishContext spec = some "en" ∧ ¬ Number.Breaks englishContext spec "en" d ∧
    numberWith englishContext {} spec (.decimal (.finite d)) =
      ⟨calls, .ok "+12.5[percent;1;1;1;g;~;symbol;~]@en"⟩ ∧
    numberWith englishContext {} spec (.decimal (.finite d.negated)) =
      ⟨calls, .ok "(12.5[percent;1;1;1;g;~;symbol;~]@en)"⟩ := by
  let spec := Spec.ofSkeleton "::percent .0 sign-accounting-always".toList
  let d : Decimal := ⟨false, 125, -3⟩
  have hl : spec.isLiteralFallback = false := by decide +kernel
  have hlocale : Number.localeOf englishContext spec = some "en" := by decide +kernel
  obtain ⟨hbreaks, hshown, -⟩ := numberWith_sign_apart answers_english {} hl hlocale d
  have hplus : (numberWith englishContext {} spec (.decimal (.finite d))).result =
      .ok "+12.5[percent;1;1;1;g;~;symbol;~]@en" := by decide +kernel
  have hminus : (numberWith englishContext {} spec (.decimal (.finite d.negated))).result =
      .ok "(12.5[percent;1;1;1;g;~;symbol;~]@en)" := by decide +kernel
  have hfits : ¬ Number.Breaks englishContext spec "en" d := fun h => by
    obtain ⟨calls, e, hfails⟩ := hbreaks h
    rw [hfails _ d (by decide +kernel) rfl] at hplus
    cases hplus
  obtain ⟨calls, _, _, _, _, -, -, -, hwritten⟩ := hshown hfits
  obtain ⟨_, _, _, text, -, -, -, -, -, htext⟩ := hwritten (.decimal (.finite d)) d (by decide +kernel) rfl
  obtain ⟨_, _, _, text', -, -, -, -, -, htext'⟩ :=
    hwritten (.decimal (.finite d.negated)) d.negated (by decide +kernel) rfl
  obtain rfl : text = _ := Except.ok.inj ((congrArg Outcome.result htext).symm.trans hplus)
  obtain rfl : text' = _ := Except.ok.inj ((congrArg Outcome.result htext').symm.trans hminus)
  exact ⟨spec, d, calls, rfl, rfl, answers_english, hl, hlocale, hfits, htext, htext'⟩

/-- A negative number of which zero is shown is not enclosed, under a policy that encloses negative amounts. -/
theorem numberWith_zero_not_enclosed : ∃ (spec : Spec) (d scaled : Decimal) (text : String),
    spec = Spec.ofSkeleton "::precision-integer sign-accounting-except-zero".toList ∧ d = ⟨true, 4, -1⟩ ∧
    (∀ locale, englishContext.backend.Answers locale) ∧ spec.isLiteralFallback = false ∧
    Number.localeOf englishContext spec = some "en" ∧ spec.sign = .accountingExceptZero ∧
    Number.scaled spec d = .ok scaled ∧ scaled.value < 0 ∧
    (numberWith englishContext {} { spec with sign := .never } (.decimal (.finite d))).result = .ok text ∧
    (numberWith englishContext {} spec (.decimal (.finite d))).result = .ok text ∧
    (numberWith englishContext {} spec (.decimal (.finite d))).result ≠ .ok ("(" ++ text ++ ")") :=
  ⟨_, _, ⟨true, 4, -1⟩, "0[decimal;1;0;0;g;~;symbol;~]@en", rfl, rfl, answers_english, by decide +kernel,
    by decide +kernel, by decide +kernel, by decide +kernel,
    (PluralOperands.isNegative_iff _).mp (by decide), by decide +kernel, by decide +kernel,
    by decide +kernel⟩

end MessageFormat.Format
