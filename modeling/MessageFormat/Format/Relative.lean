import MessageFormat.Format.List

/-!
Times relative to now, such as "in 3 days".
-/

set_option autoImplicit false

namespace MessageFormat.Format

open MessageFormat.Locale (Context)

/-- Faults after which the number and the field are shown. -/
def degradableRelative : List FaultKind := [.value, .key, .invalidOperation]

/-- The first word of the style is the field; a later one may be a width. -/
def relativeTime (context : Context) (style : Option String) (value : Value) : Outcome String := do
  let words := styleWords style
  let field := words.headD "day"
  let width := lastNamed ListWidth.all ListWidth.text .long (words.drop 1)
  let amount := value.decimal?.getD Decimal.zero
  let text ← match context.localeFor .relativeTime with
    | none => pure none
    | some locale =>
      Outcome.recover degradableRelative
        (context.ask (.formatRelative field amount width) locale) (pure none)
  match text with
  | some text => context.transliterate text
  | none =>
    let number ← plainAmount context amount
    return number ++ " " ++ field

end MessageFormat.Format
