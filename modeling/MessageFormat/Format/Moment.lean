import MessageFormat.Calendar.Reading
import MessageFormat.Format.Number

/-!
Dates, times and ranges of dates in a style: a length, a skeleton, or a date pattern.
-/

set_option autoImplicit false

namespace MessageFormat

namespace Moment

/-- The start of 1970, in microseconds since the start of year 1. -/
def epoch : Int := (Date.daysBeforeYear 1970 * TimeOfDay.microsPerDay : Nat)

/-- The moment in universal time that many seconds after the start of 1970. -/
def ofEpochSeconds? : Binary64 → Option Moment
  | .finite negative m e =>
    let micros : Int := Binary64.millionths m e
    ofMicros (epoch + if negative then -micros else micros) (some 0)
  | _ => none

def atMidnight (d : Date) : Moment := ⟨d, {}⟩

def onFirstDay (t : TimeOfDay) : Moment := ⟨⟨1970, 1, 1⟩, t⟩

end Moment

/-- The moment that a value is, or that its text or its number of seconds names. -/
def Value.moment? : Value → Option Moment
  | .moment m => some m
  | .date d => some (.atMidnight d)
  | .time t => some (.onFirstDay t)
  | .int n => Moment.ofEpochSeconds? (Binary64.ofDecimal (Decimal.ofInt n))
  | .float x => Moment.ofEpochSeconds? x
  | .decimal n => Moment.ofEpochSeconds? (Binary64.ofNumeral n)
  | .text s => Moment.read? (Text.trim s.toList)
  | _ => none

namespace Format

open MessageFormat.Locale (Context)

def momentIso (m : Moment) : String := String.ofList m.iso

def dateLengths : List String := ["short", "medium", "long", "full"]

/-- The skeleton of a style that starts with two colons. -/
def skeleton? (style : Option String) : Option String :=
  style.bind fun s =>
    (Text.strip? [':', ':'] s.toList).map fun r => String.ofList (Text.trim r)

/-- The date pattern of a style; a skeleton that nothing matches counts as the medium length. -/
def datePattern (context : Context) (kind : DateKind) (style : Option String) (locale : String) :
    Outcome String :=
  match skeleton? style with
  | some skeleton => do
    let pattern ← context.ask (.skeletonPattern skeleton) locale
    match pattern with
    | some pattern => return pattern
    | none => context.ask (.datePattern kind "medium") locale
  | none =>
    match style with
    | none => context.ask (.datePattern kind "medium") locale
    | some style =>
      let length := Text.lowerString style
      if dateLengths.contains length then context.ask (.datePattern kind length) locale
      else pure style

/-- Faults of date rendering after which the ISO form is shown. -/
def degradableDate : List FaultKind := [.value, .key, .attribute, .overflow]

def moment (context : Context) (g : Graph) (kind : DateKind) (style : Option String)
    (value : Value) : Outcome String :=
  match value.moment? with
  | none => pure (g.plainText value)
  | some m =>
    match context.localeFor .date with
    | none => pure (momentIso m)
    | some locale =>
      Outcome.recover degradableDate
        (do
          let pattern ← datePattern context kind style locale
          context.ask (.formatMoment m pattern) locale)
        (pure (momentIso m))

/-- Faults of interval rendering after which the ends are joined. -/
def degradableInterval : List FaultKind := [.value, .key, .type, .attribute]

/-- The interval of a skeleton style, if there is one to render. -/
def interval? (context : Context) (style : Option String) (value : Value) :
    Outcome (Option String) :=
  match context.localeFor .date, skeleton? style, (rangeEnds value).1.moment?,
      (rangeEnds value).2.moment? with
  | some locale, some skeleton, some start, some stop =>
    Outcome.recover degradableInterval
      (do
        let text ← context.ask (.formatInterval start stop skeleton) locale
        return some text)
      (pure none)
  | _, _, _, _ => pure none

/-- A skeleton writes shared parts once; other styles join the two ends. -/
def dateRange (context : Context) (g : Graph) (style : Option String) (value : Value) :
    Outcome String := do
  let interval ← interval? context style value
  match interval with
  | some text => return text
  | none =>
    let first ← moment context g .date style (rangeEnds value).1
    let second ← moment context g .date style (rangeEnds value).2
    match context.localeFor .date with
    | none => return first ++ rangeSeparator context.requested ++ second
    | some locale =>
      let pattern ← context.ask .intervalFallback locale
      return Text.replaceString "\x7b1\x7d" second (Text.replaceString "\x7b0\x7d" first pattern)

/-- An argument without a formatter. -/
def plain (context : Context) (g : Graph) (value : Value) : Outcome String :=
  match value with
  | .int _ | .float _ | .decimal _ => plainNumber context g value
  | .moment _ => moment context g .dateTime none value
  | .date _ => moment context g .date none value
  | _ => pure (g.plainText value)

end Format
end MessageFormat
