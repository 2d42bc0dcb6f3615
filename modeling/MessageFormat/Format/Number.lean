import MessageFormat.Number.Rendering
import MessageFormat.Number.Skeleton
import MessageFormat.Value.Text

/-!
Numbers in a style: a keyword, a skeleton, or a number pattern.
-/

set_option autoImplicit false

namespace MessageFormat.Format

open MessageFormat.Locale (Context)
open MessageFormat.Number (Spec)

def defaultCurrency : String := "USD"

/-- The currency of the locale's territory. -/
def localCurrency (context : Context) : Outcome String :=
  match context.localeFor .currency with
  | none => pure defaultCurrency
  | some locale => do
    let currency ← context.ask .defaultCurrency locale
    return (currency.filter (!·.isEmpty)).getD defaultCurrency

def specOfStyle (context : Context) (style : Option String) : Outcome Spec :=
  match style with
  | none => pure {}
  | some style =>
    match Text.lowerString style with
    | "integer" => pure { minFraction := some 0, maxFraction := some 0, precision := .skeleton }
    | "percent" => pure { percent := true }
    | "currency" => do
      let currency ← localCurrency context
      return { currency := some currency }
    | keyword =>
      if keyword.startsWith "currency/" || keyword.startsWith "::" then
        pure (Spec.ofSkeleton style.toList)
      else if style.contains '¤' then do
        let currency ← localCurrency context
        return { pattern := some style, currency := some currency, precision := .pattern }
      else pure { pattern := some style, precision := .pattern }

def specOf (context : Context) (skeleton : Option Spec) (style : Option String) : Outcome Spec :=
  match skeleton with
  | some spec => pure spec
  | none => specOfStyle context style

def numberWith (context : Context) (g : Graph) (spec : Spec) (value : Value) : Outcome String :=
  Number.render context spec value.decimal? (g.plainText value)

/-- A number in the locale's default form. -/
def plainNumber (context : Context) (g : Graph) (value : Value) : Outcome String :=
  numberWith context g {} value

def plainAmount (context : Context) (amount : Decimal) : Outcome String :=
  Number.render context {} (some amount) amount.toString

def number (context : Context) (g : Graph) (skeleton : Option Spec) (style : Option String)
    (value : Value) : Outcome String := do
  let spec ← specOf context skeleton style
  numberWith context g spec value

/-- What stands between the two ends of a range: a dash, with thin spaces around it except in the scripts
that set it close or with full spaces. -/
def rangeSeparator (requested : String) : String :=
  match Locale.language requested with
  | "ja" | "zh" | "ko" => "\u2013"
  | "ar" => " \u2013 "
  | _ => "\u2009\u2013\u2009"

/-- The ends of a range; one value is both. -/
def rangeEnds : Value → Value × Value
  | .tuple [a, b] => (a, b)
  | v => (v, v)

/-- Both ends in one spec. -/
def numberRange (context : Context) (g : Graph) (skeleton : Option Spec) (style : Option String)
    (value : Value) : Outcome String := do
  let spec ← specOf context skeleton style
  let first ← numberWith context g spec (rangeEnds value).1
  let second ← numberWith context g spec (rangeEnds value).2
  return first ++ rangeSeparator context.requested ++ second

end MessageFormat.Format
