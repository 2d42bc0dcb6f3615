import MessageFormat.Locale.Context
import MessageFormat.Number.Rounding

/-!
Rendering a number under a spec: the value is scaled, cut and rounded here, its magnitude is rendered by the
locale data, and suffix, sign and digits are put on again here.
-/

set_option autoImplicit false

namespace MessageFormat.Number

open MessageFormat.Locale (Context)

def styleOf (spec : Spec) : Style :=
  match spec.form with
  | .compactLong => .compactLong
  | .compactShort => .compactShort
  | _ =>
    if spec.currency.isSome then (if spec.sign.isAccounting then .accounting else .currency)
    else if spec.percent then .percent
    else if spec.permille then .permille
    else .decimal

/-- The value times its scale; a percentage that has a scale of its own is not scaled again. -/
def scaled (spec : Spec) (number : Decimal) : Decimal.Result := do
  let number ← number.multiply spec.scale
  if spec.percent && spec.scale.sameValue Decimal.one then number.multiply (Decimal.ofNat 100)
  else if spec.permille then number.multiply (Decimal.ofNat 1000)
  else return number

/-- The magnitude without the integer digits that are too many. -/
def truncated (spec : Spec) (magnitude : Decimal) : Decimal.Result :=
  match spec.maxInteger with
  | none => .ok magnitude
  | some most => do
    let bound ← Decimal.powerOfTen most
    magnitude.remainder bound

/-- A magnitude with the digit limits for its rendering. -/
structure Limited where
  magnitude : Decimal
  minFraction : Option Nat
  maxFraction : Option Nat
deriving DecidableEq, Repr

def limitDigits (spec : Spec) (magnitude : Decimal) : Except Decimal.Signal Limited :=
  if spec.form.isScientific then .ok ⟨magnitude, spec.minFraction, spec.maxFraction⟩
  else match spec.maxSignificant, spec.maxFraction with
    | some most, _ => do
      let r ← roundSignificant magnitude (max 1 (spec.minSignificant.getD 1)) (max 1 most)
      return ⟨r.value, some r.minFraction, some r.maxFraction⟩
    | none, some most => do
      let r ← roundPlaces magnitude most
      return ⟨r, spec.minFraction, some most⟩
    | none, none => .ok ⟨magnitude, spec.minFraction, none⟩

/-- What cannot be rounded stays as it is. -/
def limited (spec : Spec) (magnitude : Decimal) : Except Decimal.Signal Limited :=
  match limitDigits spec magnitude with
  | .error .invalidOperation | .error .divisionImpossible =>
    .ok ⟨magnitude, spec.minFraction, spec.maxFraction⟩
  | r => r

/-- Small numbers are not grouped under the two-digit policy. -/
def groups (spec : Spec) (magnitude : Decimal) : Bool :=
  match spec.grouping with
  | .off => false
  | .min2 => magnitude.compare (Decimal.ofNat 10000) != .lt
  | _ => true

def optionsOf (spec : Spec) (l : Limited) : RenderOptions where
  style := styleOf spec
  minInteger := spec.minInteger
  minFraction := l.minFraction
  maxFraction := l.maxFraction
  grouping := groups spec l.magnitude
  currency := spec.currency
  currencyDisplay := spec.currencyDisplay
  pattern := spec.pattern

/-- The exponent of scientific notation, or the multiple of three below it for engineering. -/
def exponentOf (spec : Spec) (magnitude : Decimal) : Int :=
  let e := if magnitude.isZero then 0 else magnitude.adjusted
  if spec.form = .engineering then e - e % 3 else e

def renderScientific (context : Context) (spec : Spec) (locale : String) (l : Limited) :
    Outcome String := do
  let e := exponentOf spec l.magnitude
  let mantissa ← Outcome.arithmetic (l.magnitude.scaleb (-e))
  let options := { optionsOf spec l with style := .decimal, grouping := false }
  let text ← context.ask (.formatNumber mantissa options) locale
  let symbols ← context.numberSymbols
  let exponent := if e < 0 then symbols.minus ++ toString e.natAbs else toString e
  let suffix := if spec.percent then "%" else if spec.permille then "‰" else ""
  return text ++ symbols.exponential ++ exponent ++ suffix

/-- The magnitude with its unit; an unknown unit follows as it is written. -/
def renderUnit (context : Context) (spec : Spec) (unit locale : String) (l : Limited) :
    Outcome String := do
  let unitLocale := (context.localeFor .unit).getD locale
  let text ← context.ask (.formatUnit l.magnitude unit spec.unitWidth (optionsOf spec l)) unitLocale
  match text.filter (!·.isEmpty) with
  | some text => return text
  | none =>
    let number ← context.ask (.formatNumber l.magnitude (optionsOf spec l)) locale
    return number ++ " " ++ unit

def renderMagnitude (context : Context) (spec : Spec) (locale : String) (l : Limited) :
    Outcome String :=
  if spec.form.isScientific then renderScientific context spec locale l
  else match spec.unit with
    | some unit => renderUnit context spec unit locale l
    | none => context.ask (.formatNumber l.magnitude (optionsOf spec l)) locale

/-- The suffix of an ordinal, chosen by its category. -/
def ordinalSuffix (context : Context) (magnitude : Decimal) : Outcome String :=
  match context.localeFor .ordinal with
  | none => pure ""
  | some locale => do
    let category ← context.pluralCategory (.decimal (.finite magnitude)) true
    let suffix ← context.ask (.ordinalSuffix category) locale
    return suffix.getD ""

/-- The signs of a policy around a rendered magnitude. -/
def withSign (policy : SignDisplay) (symbols : Symbols) (negative zero : Bool) (text : String) :
    String :=
  let signed := (if negative then symbols.minus else symbols.plus) ++ text
  let enclosed := "(" ++ text ++ ")"
  match policy with
  | .never => text
  | .always => signed
  | .exceptZero => if zero then text else signed
  | .accounting => if negative then enclosed else text
  | .accountingAlways => if negative then enclosed else symbols.plus ++ text
  | .accountingExceptZero =>
    if zero then text else if negative then enclosed else symbols.plus ++ text
  | .auto => if negative then symbols.minus ++ text else text

/-- Faults of rendering after which the plain text is shown. -/
def degradable : List FaultKind := [.value, .key, .type, .invalidOperation]

/-- The number as the spec has it; `plain` is shown where there is no number, no data or no understood
token, and where rendering fails. -/
def render (context : Context) (spec : Spec) (number : Option Decimal) (plain : String) :
    Outcome String := do
  let some number := number | return plain
  if spec.isLiteralFallback then return plain
  let preferred := if spec.currency.isSome then context.localeFor .currency else none
  let some locale := preferred <|> context.localeFor .number | return plain
  let number ← Outcome.arithmetic (scaled spec number)
  let magnitude ← Outcome.arithmetic (truncated spec number.magnitude)
  let l ← Outcome.arithmetic (limited spec magnitude)
  let rendered ← Outcome.recover degradable
    (do let text ← renderMagnitude context spec locale l; return some text) (pure none)
  let some text := rendered | return plain
  let suffix ←
    if spec.ordinal && !spec.form.isScientific then ordinalSuffix context l.magnitude else pure ""
  let symbols ← context.numberSymbols
  let text := withSign spec.sign symbols number.isNegative l.magnitude.isZero (text ++ suffix)
  context.transliterate text

end MessageFormat.Number
